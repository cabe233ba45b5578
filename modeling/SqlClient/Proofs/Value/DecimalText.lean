import Mathlib.Data.List.Infix
import SqlClient.Proofs.Value.Numeral
import SqlClient.Proofs.Value.Rounding

namespace SqlClient

namespace FloatValue

theorem splitSign_append (sign : Sign) {text : List Char}
    (h : ∀ c ∈ text.head?, c ≠ '-' ∧ c ≠ '+') :
    splitSign (sign.chars ++ text) = (sign.isNegative, text) := by
  cases sign with
  | none =>
    cases text with
    | nil => rfl
    | cons c text =>
      obtain ⟨hminus, hplus⟩ := h c rfl
      unfold splitSign
      split <;> simp_all [Sign.chars, Sign.isNegative]
  | plus => rfl
  | minus => rfl

theorem exists_sign (text : List Char) :
    ∃ sign : Sign, sign.isNegative = (splitSign text).1 ∧
      sign.chars ++ (splitSign text).2 = text := by
  unfold splitSign
  split
  · exact ⟨.minus, rfl, rfl⟩
  · exact ⟨.plus, rfl, rfl⟩
  · exact ⟨.none, rfl, rfl⟩

end FloatValue

namespace DecimalLiteral

/-- The digits of an exponent that count: those up to the one at which the number reaches `2 ^ 16`,
and all of them if it never does. -/
def counted (digits : List Char) : List Char :=
  (digits.inits.find? fun front ↦ 2 ^ 16 ≤ Nat.ofDigitChars 10 front 0).getD digits

theorem ofDigitChars_concat (digits : List Char) (c : Char) :
    Nat.ofDigitChars 10 (digits ++ [c]) 0 =
      Nat.ofDigitChars 10 digits 0 * 10 + (c.toNat - 48) := by
  rw [Nat.ofDigitChars_append, Nat.ofDigitChars_cons, Nat.ofDigitChars_nil, Nat.mul_comm]
  rfl

theorem counted_of_lt {digits : List Char} (h : Nat.ofDigitChars 10 digits 0 < 10 * 2 ^ 16) :
    counted digits = digits := by
  cases hfind : digits.inits.find? fun front ↦ 2 ^ 16 ≤ Nat.ofDigitChars 10 front 0 with
  | none => rw [counted, hfind, Option.getD_none]
  | some front =>
    have hreached : 2 ^ 16 ≤ Nat.ofDigitChars 10 front 0 := by simpa using List.find?_some hfind
    obtain ⟨rest, rfl⟩ := (List.mem_inits ..).mp (List.mem_of_find?_eq_some hfind)
    rw [counted, hfind, Option.getD_some]
    cases rest with
    | nil => exact (List.append_nil front).symm
    | cons c rest =>
      -- The digit behind the limit makes the number ten times as large.
      rw [Nat.ofDigitChars_append, Nat.ofDigitChars_cons] at h
      have hgrows := Numeral.le_ofDigitChars rest
        (10 * Nat.ofDigitChars 10 front 0 + (c.toNat - '0'.toNat))
      omega

/-- Digits behind the limit do not bring a number below it. -/
theorem le_counted {digits : List Char} (h : 2 ^ 16 ≤ Nat.ofDigitChars 10 digits 0) :
    2 ^ 16 ≤ Nat.ofDigitChars 10 (counted digits) 0 := by
  cases hfind : digits.inits.find? fun front ↦ 2 ^ 16 ≤ Nat.ofDigitChars 10 front 0 with
  | none => rwa [counted, hfind, Option.getD_none]
  | some front =>
    rw [counted, hfind, Option.getD_some]
    simpa using List.find?_some hfind

theorem inits_concat (digits : List Char) (c : Char) :
    (digits ++ [c]).inits = digits.inits ++ [digits ++ [c]] := by
  simp [List.inits_append]

/-- A digit counts if the number is below the limit in front of it. -/
theorem counted_concat (digits : List Char) (c : Char) :
    counted (digits ++ [c]) =
      if Nat.ofDigitChars 10 (counted digits) 0 < 2 ^ 16 then digits ++ [c]
      else counted digits := by
  rw [counted, inits_concat, List.find?_append]
  cases hfind : digits.inits.find? fun front ↦ 2 ^ 16 ≤ Nat.ofDigitChars 10 front 0 with
  | none =>
    have hbelow : ¬ 2 ^ 16 ≤ Nat.ofDigitChars 10 digits 0 := by
      simpa using List.find?_eq_none.mp hfind digits (by simp)
    rw [counted, hfind, Option.getD_none, if_pos (Nat.lt_of_not_le hbelow)]
    rw [List.find?_singleton, Option.none_or]
    split <;> rfl
  | some front =>
    have hreached : 2 ^ 16 ≤ Nat.ofDigitChars 10 front 0 := by simpa using List.find?_some hfind
    rw [counted, hfind, Option.getD_some, if_neg (Nat.not_lt_of_le hreached)]
    rfl

theorem exponentOfDigits_concat (digits : List Char) (c : Char) :
    exponentOfDigits (digits ++ [c]) =
      if exponentOfDigits digits < 2 ^ 16 then exponentOfDigits digits * 10 + (c.toNat - 48)
      else exponentOfDigits digits :=
  List.foldl_concat ..

/-- Reading on to the end without a change is stopping at the limit. -/
theorem exponentOfDigits_eq (digits : List Char) :
    exponentOfDigits digits = Nat.ofDigitChars 10 (counted digits) 0 := by
  -- Whether a digit counts depends on those in front of it, so the induction is from the end.
  induction digits using List.reverseRecOn with
  | nil => rfl
  | append_singleton digits c ih =>
    rw [exponentOfDigits_concat, counted_concat, ih]
    split
    · next hbelow =>
      have hdigits : Nat.ofDigitChars 10 digits 0 < 2 ^ 16 :=
        Nat.lt_of_not_le fun h ↦ Nat.not_le_of_lt hbelow (le_counted h)
      rw [counted_of_lt (by omega), ofDigitChars_concat]
    · rfl

/-- An exponent is split like the literal itself. -/
theorem exponent?_eq (text : List Char) :
    exponent? text =
      let (negative, digits) := FloatValue.splitSign text
      if digits.isEmpty || !digits.all Char.isDigit then none
      else some (if negative then -(exponentOfDigits digits : Int) else exponentOfDigits digits) :=
  rfl

end DecimalLiteral

structure ExponentText where
  marker : Char
  numeral : Numeral
  marker_eq : marker = 'e' ∨ marker = 'E'

namespace ExponentText

def chars (exponent : ExponentText) : List Char :=
  exponent.marker :: exponent.numeral.chars

def countedValue (exponent : ExponentText) : Int :=
  exponent.numeral.sign.apply
    (Nat.ofDigitChars 10 (DecimalLiteral.counted exponent.numeral.digits) 0)

end ExponentText

namespace DecimalLiteral

theorem not_invalid_iff {digits : List Char} :
    ¬ (digits.isEmpty || !digits.all Char.isDigit) = true ↔
      digits ≠ [] ∧ ∀ c ∈ digits, c.isDigit = true := by
  simp

theorem exponent?_numeral (numeral : Numeral) :
    exponent? numeral.chars =
      some (numeral.sign.apply (Nat.ofDigitChars 10 (counted numeral.digits) 0)) := by
  have hhead : ∀ c ∈ numeral.digits.head?, c ≠ '-' ∧ c ≠ '+' := by
    intro c hc
    have hdigit := numeral.isDigit_of_mem c (List.mem_of_mem_head? hc)
    exact ⟨Numeral.ne_of_isDigit hdigit (by decide), Numeral.ne_of_isDigit hdigit (by decide)⟩
  rw [exponent?_eq, Numeral.chars, FloatValue.splitSign_append numeral.sign hhead]
  dsimp only
  rw [if_neg (not_invalid_iff.mpr ⟨numeral.digits_ne_nil, numeral.isDigit_of_mem⟩)]
  rw [exponentOfDigits_eq]
  rfl

theorem exists_numeral_of_exponent? {text : List Char} {n : Int} (h : exponent? text = some n) :
    ∃ numeral : Numeral, numeral.chars = text := by
  obtain ⟨sign, -, htext⟩ := FloatValue.exists_sign text
  rw [exponent?_eq] at h
  generalize FloatValue.splitSign text = parts at h htext
  obtain ⟨negative, digits⟩ := parts
  dsimp only at h htext
  by_cases hdigits : (digits.isEmpty || !digits.all Char.isDigit) = true
  · rw [if_pos hdigits] at h
    cases h
  · obtain ⟨hne, hdigit⟩ := not_invalid_iff.mp hdigits
    exact ⟨⟨sign, digits, hne, hdigit⟩, htext⟩

theorem ofDigits_eq (digits : List Char) : ofDigits digits = Nat.ofDigitChars 10 digits 0 := by
  induction digits using List.reverseRecOn with
  | nil => rfl
  | append_singleton digits c ih =>
    rw [ofDigitChars_concat, ← ih]
    exact List.foldl_concat ..

section Unsigned

variable {text rest last whole fraction : List Char}
  (hwhole : text.span Char.isDigit = (whole, rest))
  (hfraction : splitFraction rest = (fraction, last))
include hwhole hfraction

theorem ofUnsigned?_eq (negative : Bool) (h : whole ++ fraction ≠ []) :
    ofUnsigned? negative text =
      (ending? last).map fun exponent ↦
        ⟨negative, Nat.ofDigitChars 10 (whole ++ fraction) 0, exponent - fraction.length⟩ := by
  have hdigits : (whole ++ fraction).isEmpty = false := List.isEmpty_eq_false_iff.mpr h
  rw [← ofDigits_eq, ofUnsigned?, hwhole]
  simp only [hfraction, hdigits]
  cases ending? last <;> rfl

theorem ne_nil_of_ofUnsigned? {negative : Bool} {literal : DecimalLiteral}
    (h : ofUnsigned? negative text = some literal) : whole ++ fraction ≠ [] := by
  intro hempty
  rw [ofUnsigned?, hwhole] at h
  simp only [hfraction, hempty] at h
  cases h

end Unsigned

theorem span_isDigit {digits rest : List Char} (hdigits : ∀ c ∈ digits, c.isDigit = true)
    (hrest : ∀ c ∈ rest.head?, c.isDigit = false) :
    (digits ++ rest).span Char.isDigit = (digits, rest) := by
  rw [List.span_eq_takeWhile_dropWhile, List.takeWhile_append_of_pos hdigits,
    List.dropWhile_append_of_pos hdigits]
  cases rest with
  | nil => simp
  | cons c rest => simp [hrest c rfl]

theorem of_span_isDigit {text digits rest : List Char}
    (h : text.span Char.isDigit = (digits, rest)) :
    digits ++ rest = text ∧ ∀ c ∈ digits, c.isDigit = true := by
  rw [List.span_eq_takeWhile_dropWhile] at h
  cases h
  exact ⟨List.takeWhile_append_dropWhile, List.all_eq_true.mp List.all_takeWhile⟩

end DecimalLiteral

/-- A sign or none, digits with a point anywhere or nowhere, at least one of them, and maybe an
exponent. -/
structure DecimalText where
  sign : Sign
  whole : List Char
  fraction : Option (List Char)
  exponent : Option ExponentText
  digits_ne_nil : whole ++ fraction.getD [] ≠ []
  isDigit_of_mem : ∀ c ∈ whole ++ fraction.getD [], c.isDigit = true

namespace DecimalText

def places (decimal : DecimalText) : List Char :=
  decimal.fraction.getD []

def digits (decimal : DecimalText) : List Char :=
  decimal.whole ++ decimal.places

def point : Option (List Char) → List Char
  | none => []
  | some digits => '.' :: digits

def ending : Option ExponentText → List Char
  | none => []
  | some exponent => exponent.chars

def unsigned (decimal : DecimalText) : List Char :=
  decimal.whole ++ (point decimal.fraction ++ ending decimal.exponent)

def chars (decimal : DecimalText) : List Char :=
  decimal.sign.chars ++ decimal.unsigned

def text (decimal : DecimalText) : String :=
  String.ofList decimal.chars

def coefficient (decimal : DecimalText) : Nat :=
  Nat.ofDigitChars 10 decimal.digits 0

def writtenExponent (decimal : DecimalText) : Int :=
  decimal.exponent.elim 0 fun exponent ↦ exponent.numeral.value

def countedExponent (decimal : DecimalText) : Int :=
  decimal.exponent.elim 0 ExponentText.countedValue

def magnitude (decimal : DecimalText) : ℚ :=
  decimal.coefficient * 10 ^ (decimal.writtenExponent - decimal.places.length)

/-- The exact number that is read, without its sign. -/
def countedMagnitude (decimal : DecimalText) : ℚ :=
  decimal.coefficient * 10 ^ (decimal.countedExponent - decimal.places.length)

def literal (decimal : DecimalText) : DecimalLiteral where
  negative := decimal.sign.isNegative
  coefficient := decimal.coefficient
  exponent := decimal.countedExponent - decimal.places.length

theorem magnitude_literal (decimal : DecimalText) :
    decimal.literal.magnitude = decimal.countedMagnitude :=
  rfl

theorem ne_of_mem_head?_ending {exponent : Option ExponentText} {c : Char}
    (h : c ∈ (ending exponent).head?) : c.isDigit = false ∧ c ≠ '.' := by
  cases exponent with
  | none => cases h
  | some exponent =>
    cases h
    obtain hmarker | hmarker := exponent.marker_eq <;> rw [hmarker] <;> decide

theorem splitFraction_append {fraction : Option (List Char)}
    (h : ∀ c ∈ fraction.getD [], c.isDigit = true) (exponent : Option ExponentText) :
    DecimalLiteral.splitFraction (point fraction ++ ending exponent) =
      (fraction.getD [], ending exponent) := by
  cases fraction with
  | none =>
    refine DecimalLiteral.splitFraction.eq_2 _ fun rest hpoint ↦ ?_
    have hhead : '.' ∈ (ending exponent).head? := by
      rw [show ending exponent = '.' :: rest from hpoint]
      rfl
    exact (ne_of_mem_head?_ending hhead).2 rfl
  | some digits =>
    exact DecimalLiteral.span_isDigit h fun c hc ↦ (ne_of_mem_head?_ending hc).1

theorem ending?_ending (exponent : Option ExponentText) :
    DecimalLiteral.ending? (ending exponent) =
      some (exponent.elim 0 ExponentText.countedValue) := by
  cases exponent with
  | none => rfl
  | some exponent =>
    exact (if_pos exponent.marker_eq).trans (DecimalLiteral.exponent?_numeral exponent.numeral)

theorem ofUnsigned?_unsigned (decimal : DecimalText) :
    DecimalLiteral.ofUnsigned? decimal.sign.isNegative decimal.unsigned = some decimal.literal := by
  have hwhole : ∀ c ∈ decimal.whole, c.isDigit = true := fun c hc ↦
    decimal.isDigit_of_mem c (List.mem_append_left _ hc)
  have hplaces : ∀ c ∈ decimal.places, c.isDigit = true := fun c hc ↦
    decimal.isDigit_of_mem c (List.mem_append_right _ hc)
  have hrest : ∀ c ∈ (point decimal.fraction ++ ending decimal.exponent).head?,
      c.isDigit = false := by
    intro c hc
    cases hfraction : decimal.fraction with
    | none =>
      rw [hfraction] at hc
      exact (ne_of_mem_head?_ending hc).1
    | some digits =>
      rw [hfraction] at hc
      cases hc
      rfl
  have hliteral := DecimalLiteral.ofUnsigned?_eq (DecimalLiteral.span_isDigit hwhole hrest)
    (splitFraction_append hplaces decimal.exponent) decimal.sign.isNegative decimal.digits_ne_nil
  rw [ending?_ending] at hliteral
  exact hliteral

theorem exists_head_unsigned (decimal : DecimalText) :
    ∃ c rest, decimal.unsigned = c :: rest ∧ (c.isDigit = true ∨ c = '.') := by
  cases hwhole : decimal.whole with
  | cons c whole =>
    have hdigit : c.isDigit = true := decimal.isDigit_of_mem c (by simp [hwhole])
    exact ⟨c, _, by rw [unsigned, hwhole]; rfl, .inl hdigit⟩
  | nil =>
    cases hfraction : decimal.fraction with
    | none => exact absurd (by simp [hwhole, hfraction]) decimal.digits_ne_nil
    | some digits => exact ⟨'.', _, by rw [unsigned, hwhole, hfraction]; rfl, .inr rfl⟩

theorem splitSign_chars (decimal : DecimalText) :
    FloatValue.splitSign decimal.chars = (decimal.sign.isNegative, decimal.unsigned) := by
  obtain ⟨c, rest, hunsigned, hhead⟩ := decimal.exists_head_unsigned
  apply FloatValue.splitSign_append
  intro c' hc'
  rw [hunsigned] at hc'
  cases hc'
  obtain hdigit | rfl := hhead
  · exact ⟨Numeral.ne_of_isDigit hdigit (by decide), Numeral.ne_of_isDigit hdigit (by decide)⟩
  · decide

theorem exists_point {text fraction rest : List Char}
    (h : DecimalLiteral.splitFraction text = (fraction, rest)) :
    ∃ digits : Option (List Char), digits.getD [] = fraction ∧ point digits ++ rest = text ∧
      ∀ c ∈ fraction, c.isDigit = true := by
  unfold DecimalLiteral.splitFraction at h
  split at h
  · obtain ⟨rfl, hdigits⟩ := DecimalLiteral.of_span_isDigit h
    exact ⟨some fraction, rfl, rfl, hdigits⟩
  · cases h
    exact ⟨none, rfl, rfl, by simp⟩

theorem exists_ending {text : List Char} {n : Int} (h : DecimalLiteral.ending? text = some n) :
    ∃ exponent : Option ExponentText, ending exponent = text := by
  cases text with
  | nil => exact ⟨none, rfl⟩
  | cons c text =>
    rw [DecimalLiteral.ending?] at h
    split at h
    · next hmarker =>
      obtain ⟨numeral, rfl⟩ := DecimalLiteral.exists_numeral_of_exponent? h
      exact ⟨some ⟨c, numeral, hmarker⟩, rfl⟩
    · cases h

/-- Nothing but written literals is read as one. -/
theorem exists_of_ofUnsigned? (sign : Sign) {negative : Bool} {text : List Char}
    {literal : DecimalLiteral} (h : DecimalLiteral.ofUnsigned? negative text = some literal) :
    ∃ decimal : DecimalText, decimal.sign = sign ∧ decimal.unsigned = text := by
  cases hwhole : text.span Char.isDigit with | mk whole rest =>
  cases hfraction : DecimalLiteral.splitFraction rest with | mk fraction ending =>
  have hne := DecimalLiteral.ne_nil_of_ofUnsigned? hwhole hfraction h
  rw [DecimalLiteral.ofUnsigned?_eq hwhole hfraction negative hne] at h
  obtain ⟨rfl, hwholeDigits⟩ := DecimalLiteral.of_span_isDigit hwhole
  obtain ⟨digits, rfl, rfl, hdigits⟩ := exists_point hfraction
  obtain ⟨n, hn, -⟩ := Option.map_eq_some_iff.mp h
  obtain ⟨exponent, rfl⟩ := exists_ending hn
  refine ⟨⟨sign, whole, digits, exponent, hne, fun c hc ↦ ?_⟩, rfl, rfl⟩
  exact (List.mem_append.mp hc).elim (hwholeDigits c) (hdigits c)

theorem countedExponent_of_lt {decimal : DecimalText}
    (h : decimal.writtenExponent.natAbs < 10 * 2 ^ 16) :
    decimal.countedExponent = decimal.writtenExponent := by
  unfold countedExponent writtenExponent at *
  cases hexponent : decimal.exponent with
  | none => rfl
  | some exponent =>
    rw [hexponent] at h
    have hmagnitude : exponent.numeral.magnitude < 10 * 2 ^ 16 := by
      rwa [Option.elim_some, Numeral.natAbs_value] at h
    rw [Option.elim_some, Option.elim_some, ExponentText.countedValue,
      DecimalLiteral.counted_of_lt hmagnitude]
    rfl

theorem countedMagnitude_of_lt {decimal : DecimalText}
    (h : decimal.writtenExponent.natAbs < 10 * 2 ^ 16) :
    decimal.countedMagnitude = decimal.magnitude := by
  rw [countedMagnitude, magnitude, countedExponent_of_lt h]

/-- Digits that do not count leave an exponent large, and on the same side of zero. -/
theorem exponent_cases (decimal : DecimalText) :
    decimal.countedExponent = decimal.writtenExponent ∨
      2 ^ 16 ≤ decimal.countedExponent ∧ 2 ^ 16 ≤ decimal.writtenExponent ∨
      decimal.countedExponent ≤ -2 ^ 16 ∧ decimal.writtenExponent ≤ -2 ^ 16 := by
  by_cases hsmall : decimal.writtenExponent.natAbs < 10 * 2 ^ 16
  · exact .inl (countedExponent_of_lt hsmall)
  right
  unfold countedExponent writtenExponent at *
  cases hexponent : decimal.exponent with
  | none => simp [hexponent] at hsmall
  | some exponent =>
    rw [hexponent, Option.elim_some, Numeral.natAbs_value] at hsmall
    have hwritten : 2 ^ 16 ≤ exponent.numeral.magnitude := by omega
    have hcounted := DecimalLiteral.le_counted hwritten
    rw [Option.elim_some, Option.elim_some, ExponentText.countedValue, Numeral.value]
    unfold Sign.apply
    split
    · right
      omega
    · left
      omega

theorem coefficient_lt (decimal : DecimalText) : decimal.coefficient < 10 ^ decimal.digits.length :=
  Numeral.ofDigitChars_lt decimal.isDigit_of_mem

theorem length_places_le (decimal : DecimalText) :
    decimal.places.length ≤ decimal.digits.length := by
  rw [digits, List.length_append]
  exact Nat.le_add_left ..

theorem lt_one_of_exponent {decimal : DecimalText} {exponent : Int}
    (h : exponent ≤ -decimal.digits.length) :
    (decimal.coefficient : ℚ) * 10 ^ (exponent - decimal.places.length) < 1 := by
  have hpow : (0 : ℚ) < 10 ^ (exponent - decimal.places.length) := zpow_pos (by norm_num) _
  calc
    (decimal.coefficient : ℚ) * 10 ^ (exponent - decimal.places.length) <
        10 ^ (decimal.digits.length : Int) * 10 ^ (exponent - decimal.places.length) := by
      rw [zpow_natCast]
      exact mul_lt_mul_of_pos_right (by exact_mod_cast decimal.coefficient_lt) hpow
    _ = 10 ^ (decimal.digits.length + (exponent - decimal.places.length)) :=
      (zpow_add₀ (by norm_num) _ _).symm
    _ ≤ 10 ^ (0 : Int) := zpow_le_zpow_right₀ (by norm_num) (by omega)
    _ = 1 := zpow_zero _

theorem pow_le_of_exponent {decimal : DecimalText} {exponent : Int} {k : Nat}
    (hpos : 0 < decimal.coefficient) (h : decimal.digits.length + k ≤ exponent) :
    10 ^ k ≤ (decimal.coefficient : ℚ) * 10 ^ (exponent - decimal.places.length) := by
  have hplaces := decimal.length_places_le
  have hone : (1 : ℚ) ≤ decimal.coefficient := by exact_mod_cast hpos
  calc
    (10 : ℚ) ^ k = 10 ^ (k : Int) := (zpow_natCast _ _).symm
    _ ≤ 10 ^ (exponent - decimal.places.length) := zpow_le_zpow_right₀ (by norm_num) (by omega)
    _ ≤ decimal.coefficient * 10 ^ (exponent - decimal.places.length) :=
      le_mul_of_one_le_left (zpow_pos (by norm_num) _).le hone

/-- If the digits in front are few, those of the exponent that do not count do not matter. -/
theorem le_countedMagnitude_iff {decimal : DecimalText} {bound : ℚ} {k : Nat} (hlow : 1 ≤ bound)
    (hhigh : bound ≤ 10 ^ k) (hlength : decimal.digits.length + k ≤ 2 ^ 16) :
    bound ≤ decimal.countedMagnitude ↔ bound ≤ decimal.magnitude := by
  unfold countedMagnitude magnitude
  obtain heq | ⟨hcounted, hwritten⟩ | ⟨hcounted, hwritten⟩ := decimal.exponent_cases
  · rw [heq]
  · -- Zero stays zero; any other number is past the bound with either exponent.
    obtain hzero | hpos := Nat.eq_zero_or_pos decimal.coefficient
    · simp [hzero]
    · exact iff_of_true (hhigh.trans (pow_le_of_exponent hpos (by omega)))
        (hhigh.trans (pow_le_of_exponent hpos (by omega)))
  · exact iff_of_false (not_le_of_gt ((lt_one_of_exponent (by omega)).trans_le hlow))
      (not_le_of_gt ((lt_one_of_exponent (by omega)).trans_le hlow))

def one (zeros : Nat) (exponent : Numeral) : DecimalText where
  sign := .none
  whole := ['0']
  fraction := some (List.replicate zeros '0' ++ ['1'])
  exponent := some ⟨'e', exponent, .inl rfl⟩
  digits_ne_nil := by simp
  isDigit_of_mem c hc := by
    have hdigit : c = '0' ∨ c = '1' := by
      simp only [Option.getD_some, List.cons_append, List.nil_append, List.mem_cons,
        List.mem_append, List.mem_replicate, List.not_mem_nil, or_false] at hc
      tauto
    obtain rfl | rfl := hdigit <;> rfl

variable (zeros : Nat) (exponent : Numeral)

theorem digits_one : (one zeros exponent).digits = List.replicate (zeros + 1) '0' ++ ['1'] :=
  rfl

theorem length_places_one : (one zeros exponent).places.length = zeros + 1 := by
  rw [one, places, Option.getD_some, List.length_append, List.length_replicate]
  rfl

theorem coefficient_one : (one zeros exponent).coefficient = 1 := by
  rw [coefficient, digits_one, Nat.ofDigitChars_append, Nat.ofDigitChars_replicate_zero]
  rfl

theorem magnitude_one : (one zeros exponent).magnitude = 10 ^ (exponent.value - (zeros + 1)) := by
  rw [magnitude, coefficient_one, length_places_one, Nat.cast_one, one_mul]
  push_cast
  rfl

theorem countedMagnitude_one :
    (one zeros exponent).countedMagnitude =
      10 ^ ((one zeros exponent).countedExponent - (zeros + 1)) := by
  rw [countedMagnitude, coefficient_one, length_places_one, Nat.cast_one, one_mul]
  push_cast
  rfl

end DecimalText

end SqlClient
