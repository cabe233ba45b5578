import SqlClient.Proofs.Codec.Coercion
import SqlClient.Proofs.Text.Spelling
import SqlClient.Proofs.Value.DecimalText

namespace SqlClient

/-- A sign or none, and the letters of the name, each in either case. -/
def Spells (text : String) (sign : Sign) (name : String) : Prop :=
  ∃ letters, text = String.ofList (sign.chars ++ letters) ∧ SpellsName letters name

def IsName (letters : List Char) : Prop :=
  SpellsName letters "inf" ∨ SpellsName letters "infinity" ∨ SpellsName letters "nan"

theorem isInfinityName_iff {letters : List Char} :
    FloatValue.isInfinityName letters = true ↔
      SpellsName letters "inf" ∨ SpellsName letters "infinity" := by
  rw [FloatValue.isInfinityName, Bool.or_eq_true, decide_eq_true_eq, decide_eq_true_eq,
    map_toLower_eq_iff (by simp), map_toLower_eq_iff (by simp)]

theorem isNanName_iff {letters : List Char} :
    letters.map Char.toLower = "nan".toList ↔ SpellsName letters "nan" :=
  map_toLower_eq_iff (by simp)

/-- A name begins with a letter: not with a sign, a digit or a point. -/
theorem exists_letter {letters : List Char} (h : IsName letters) :
    ∃ c rest, letters = c :: rest ∧ c.isDigit = false ∧ c ≠ '.' ∧ c ≠ '-' ∧ c ≠ '+' := by
  obtain ⟨c, letter, rest, rfl, hc, hletter⟩ : ∃ c letter rest, letters = c :: rest ∧
      (c = letter ∨ c = letter.toUpper) ∧ (letter = 'i' ∨ letter = 'n') := by
    obtain h | h | h := h
    all_goals
      obtain ⟨c, rest, hc, -, rfl⟩ := List.forall₂_cons_right_iff.mp h
      exact ⟨c, _, rest, rfl, hc, by decide⟩
  refine ⟨c, rest, rfl, ?_⟩
  obtain rfl | rfl := hletter <;> obtain rfl | rfl := hc <;> decide

theorem splitSign_name (sign : Sign) {letters : List Char} (h : IsName letters) :
    FloatValue.splitSign (sign.chars ++ letters) = (sign.isNegative, letters) := by
  obtain ⟨c, rest, rfl, -, -, hsign⟩ := exists_letter h
  apply FloatValue.splitSign_append
  rintro _ ⟨⟩
  exact hsign

/-- No name is a literal. -/
theorem ofUnsigned?_name (negative : Bool) {letters : List Char} (h : IsName letters) :
    DecimalLiteral.ofUnsigned? negative letters = none := by
  by_contra hsome
  obtain ⟨literal, hliteral⟩ := Option.ne_none_iff_exists'.mp hsome
  obtain ⟨decimal, -, hunsigned⟩ := DecimalText.exists_of_ofUnsigned? .none hliteral
  obtain ⟨c, rest, hhead, hc⟩ := decimal.exists_head_unsigned
  obtain ⟨c', rest', rfl, hdigit, hpoint, -⟩ := exists_letter h
  cases hhead.symm.trans hunsigned
  obtain hc | rfl := hc
  · cases hc.symm.trans hdigit
  · exact hpoint rfl

namespace FloatValue

variable {format : FloatFormat}

theorem not_isEmpty_of_split {text unsigned : List Char} {negative : Bool} (hne : unsigned ≠ [])
    (h : splitSign text = (negative, unsigned)) : ¬ text.isEmpty = true := by
  intro hempty
  rw [List.isEmpty_iff.mp hempty] at h
  cases h
  exact hne rfl

theorem parse_of_some {text unsigned : List Char} {negative : Bool} {literal : DecimalLiteral}
    (hne : unsigned ≠ []) (hsplit : splitSign text = (negative, unsigned))
    (h : DecimalLiteral.ofUnsigned? negative unsigned = some literal) :
    parse format text = .ok (literal.round format) := by
  simp only [parse, if_neg (not_isEmpty_of_split hne hsplit), hsplit, h]

theorem parse_of_none {text unsigned : List Char} {negative : Bool} (hne : unsigned ≠ [])
    (hsplit : splitSign text = (negative, unsigned))
    (h : DecimalLiteral.ofUnsigned? negative unsigned = none) :
    parse format text =
      if isInfinityName unsigned then .ok (.infinity negative)
      else if unsigned.map Char.toLower = "nan".toList then .ok (.nan negative)
      else .error .invalid := by
  simp only [parse, if_neg (not_isEmpty_of_split hne hsplit), hsplit, h]

theorem parse_name (sign : Sign) {letters : List Char} (h : IsName letters) :
    parse format (sign.chars ++ letters) =
      if isInfinityName letters then .ok (.infinity sign.isNegative)
      else if letters.map Char.toLower = "nan".toList then .ok (.nan sign.isNegative)
      else .error .invalid := by
  have hne : letters ≠ [] := by
    obtain ⟨c, rest, rfl, -⟩ := exists_letter h
    exact List.cons_ne_nil c rest
  exact parse_of_none hne (splitSign_name sign h) (ofUnsigned?_name _ h)

/-- Behind a sign or none there is a literal, a name, or nothing that can be read. -/
theorem parse_cases (format : FloatFormat) (text : List Char) :
    (∃ decimal : DecimalText, decimal.chars = text) ∨
      (∃ (sign : Sign) (letters : List Char), text = sign.chars ++ letters ∧ IsName letters) ∨
      ∃ cause, parse format text = .error cause := by
  obtain ⟨sign, hsign, htext⟩ := exists_sign text
  cases hsplit : splitSign text with | mk negative unsigned =>
  rw [hsplit] at hsign htext
  by_cases hempty : unsigned = []
  · -- There is nothing at all, or a sign and nothing behind it.
    subst hempty htext
    right; right
    cases sign <;> exact ⟨_, rfl⟩
  cases hliteral : DecimalLiteral.ofUnsigned? negative unsigned with
  | some literal =>
    left
    obtain ⟨decimal, rfl, hunsigned⟩ := DecimalText.exists_of_ofUnsigned? sign hliteral
    exact ⟨decimal, (congrArg (decimal.sign.chars ++ ·) hunsigned).trans htext⟩
  | none =>
    right
    by_cases hinfinity : isInfinityName unsigned = true
    · exact .inl ⟨sign, unsigned, htext.symm, (isInfinityName_iff.mp hinfinity).imp_right .inl⟩
    by_cases hnan : unsigned.map Char.toLower = "nan".toList
    · exact .inl ⟨sign, unsigned, htext.symm, .inr (.inr (isNanName_iff.mp hnan))⟩
    right
    rw [parse_of_none hempty hsplit hliteral]
    exact ⟨.invalid, by simp only [hinfinity, hnan]; rfl⟩

theorem isInfinite_of_isNumber {negative : Bool} {value : FloatValue format}
    (h : value.IsNumber negative) : value.isInfinite = false := by
  obtain ⟨significand, -, shift, -, rfl⟩ := h
  rfl

end FloatValue

namespace FromText

variable {format : FloatFormat} {text : String}

theorem float_of_error {cause : FloatError}
    (h : FloatValue.parse format text.toList = .error cause) :
    float format (Utf8.encode text) = .error (.parseFloat cause) := by
  simp only [float, text_encode, h, Except.mapError, bind, Except.bind]

theorem float_of_ok {value : FloatValue format}
    (h : FloatValue.parse format text.toList = .ok value) :
    float format (Utf8.encode text) =
      if value.isInfinite ∧ ¬ FloatValue.isInfinityName (FloatValue.splitSign text.toList).2
      then .error (.floatOutOfRange text) else .ok value := by
  simp only [float, text_encode, h, Except.mapError, bind, Except.bind]
  split <;> rfl

/-- A literal is read as a number of the format if there is one to round it to. -/
theorem float_decimal (hproper : format.Proper) (decimal : DecimalText) :
    format.overflowBound ≤ decimal.countedMagnitude ∧
        float format (Utf8.encode decimal.text) = .error (.floatOutOfRange decimal.text) ∨
      decimal.countedMagnitude < format.overflowBound ∧
        ∃ value, float format (Utf8.encode decimal.text) = .ok value ∧
          value.IsNumber decimal.sign.isNegative := by
  have hchars : decimal.text.toList = decimal.chars := String.toList_ofList
  have hsplit := decimal.splitSign_chars
  have hread := decimal.ofUnsigned?_unsigned
  have hne : decimal.unsigned ≠ [] := by
    obtain ⟨c, rest, hunsigned, -⟩ := decimal.exists_head_unsigned
    exact hunsigned ▸ List.cons_ne_nil c rest
  have hname : FloatValue.isInfinityName decimal.unsigned = false := by
    rw [Bool.eq_false_iff]
    intro hinfinity
    have hnone := ofUnsigned?_name decimal.sign.isNegative
      ((isInfinityName_iff.mp hinfinity).imp_right .inl)
    cases hread.symm.trans hnone
  have hparse : FloatValue.parse format decimal.text.toList =
      .ok (decimal.literal.round format) := by
    rw [hchars]
    exact FloatValue.parse_of_some hne hsplit hread
  rw [float_of_ok hparse, hchars, hsplit, hname, ← decimal.magnitude_literal]
  obtain ⟨hbound, hround⟩ | ⟨hbound, hround⟩ := decimal.literal.round_cases hproper
  · left
    rw [hround]
    exact ⟨hbound, rfl⟩
  · right
    rw [FloatValue.isInfinite_of_isNumber hround]
    exact ⟨hbound, _, rfl, hround⟩

theorem float_infinity {sign : Sign} (h : Spells text sign "inf" ∨ Spells text sign "infinity") :
    float format (Utf8.encode text) = .ok (.infinity sign.isNegative) := by
  obtain ⟨letters, rfl, hname⟩ : ∃ letters, text = String.ofList (sign.chars ++ letters) ∧
      (SpellsName letters "inf" ∨ SpellsName letters "infinity") := by
    obtain ⟨letters, htext, hname⟩ | ⟨letters, htext, hname⟩ := h
    · exact ⟨letters, htext, .inl hname⟩
    · exact ⟨letters, htext, .inr hname⟩
  have hinfinity := isInfinityName_iff.mpr hname
  have hparse : FloatValue.parse format (String.ofList (sign.chars ++ letters)).toList =
      .ok (.infinity sign.isNegative) := by
    rw [String.toList_ofList, FloatValue.parse_name sign (hname.imp_right .inl), if_pos hinfinity]
  rw [float_of_ok hparse, String.toList_ofList, splitSign_name sign (hname.imp_right .inl)]
  exact if_neg fun h ↦ h.2 hinfinity

theorem float_nan {sign : Sign} (h : Spells text sign "nan") :
    float format (Utf8.encode text) = .ok (.nan sign.isNegative) := by
  obtain ⟨letters, rfl, hname⟩ := h
  have hnan := isNanName_iff.mpr hname
  have hinfinity : ¬ FloatValue.isInfinityName letters = true := by
    rw [FloatValue.isInfinityName, hnan]
    decide
  have hparse : FloatValue.parse format (String.ofList (sign.chars ++ letters)).toList =
      .ok (.nan sign.isNegative) := by
    rw [String.toList_ofList, FloatValue.parse_name sign (.inr (.inr hname)), if_neg hinfinity,
      if_pos hnan]
  rw [float_of_ok hparse]
  exact if_neg fun h ↦ Bool.noConfusion h.1

theorem float_other (hdecimal : ¬ ∃ decimal : DecimalText, decimal.text = text)
    (hname : ¬ ∃ sign, Spells text sign "inf" ∨ Spells text sign "infinity" ∨
      Spells text sign "nan") :
    ∃ cause, float format (Utf8.encode text) = .error (.parseFloat cause) := by
  obtain ⟨decimal, hchars⟩ | ⟨sign, letters, htext, hletters⟩ | ⟨cause, hcause⟩ :=
    FloatValue.parse_cases format text.toList
  · exact absurd ⟨decimal, String.ext_iff.mpr (String.toList_ofList.trans hchars)⟩ hdecimal
  · have htext' : text = String.ofList (sign.chars ++ letters) := by
      rw [← htext, String.ofList_toList]
    exact absurd ⟨sign, hletters.imp (⟨letters, htext', ·⟩)
      (Or.imp (⟨letters, htext', ·⟩) (⟨letters, htext', ·⟩))⟩ hname
  · exact ⟨cause, float_of_error hcause⟩

end FromText

inductive FloatWidth
  | single
  | double
  deriving DecidableEq, Repr

namespace FloatWidth

def format : FloatWidth → FloatFormat
  | single => .single
  | double => .double

/-- Half a step past the largest number, where rounding to the nearest gives an infinity. -/
def bound : FloatWidth → ℚ
  | single => 2 ^ 128 - 2 ^ 103
  | double => 2 ^ 1024 - 2 ^ 970

def coerce (width : FloatWidth) (bytes : Bytes) : Except Error (FloatValue width.format) :=
  FromText.fromText bytes

theorem proper_format (width : FloatWidth) : width.format.Proper := by
  cases width with
  | single => exact FloatFormat.proper_single
  | double => exact FloatFormat.proper_double

theorem overflowBound_format (width : FloatWidth) : width.format.overflowBound = width.bound := by
  cases width with
  | single => exact FloatFormat.overflowBound_single
  | double => exact FloatFormat.overflowBound_double

theorem pow_le_double_bound : 2 ^ 970 ≤ double.bound := by
  rw [bound, le_sub_iff_add_le, ← two_mul, ← pow_succ']
  exact pow_le_pow_right₀ (by norm_num) (by norm_num)

theorem single_bound_le_double_bound : single.bound ≤ double.bound :=
  calc
    single.bound ≤ 2 ^ 128 := sub_le_self _ (by positivity)
    _ ≤ 2 ^ 970 := pow_le_pow_right₀ (by norm_num) (by norm_num)
    _ ≤ double.bound := pow_le_double_bound

theorem one_lt_bound (width : FloatWidth) : 1 < width.bound := by
  cases width with
  | single => norm_num [bound]
  | double => exact (one_lt_pow₀ (by norm_num) (by decide)).trans_le pow_le_double_bound

theorem bound_le (width : FloatWidth) : width.bound ≤ 10 ^ 309 := by
  have hdouble : double.bound ≤ 10 ^ 309 :=
    calc
      double.bound ≤ 2 ^ 1024 := sub_le_self _ (by positivity)
      _ ≤ 10 ^ 309 := by exact_mod_cast (by decide +kernel : 2 ^ 1024 ≤ 10 ^ 309)
  cases width with
  | single => exact single_bound_le_double_bound.trans hdouble
  | double => exact hdouble

theorem coerce_decimal (width : FloatWidth) (decimal : DecimalText) :
    width.bound ≤ decimal.countedMagnitude ∧
        width.coerce (Utf8.encode decimal.text) = .error (.floatOutOfRange decimal.text) ∨
      decimal.countedMagnitude < width.bound ∧
        ∃ value, width.coerce (Utf8.encode decimal.text) = .ok value ∧
          value.IsNumber decimal.sign.isNegative := by
  rw [← overflowBound_format]
  exact FromText.float_decimal width.proper_format decimal

/-- What a text is, and what it is read as. -/
theorem coerce_cases (width : FloatWidth) (text : String) :
    (∃ decimal : DecimalText, decimal.text = text ∧
      (width.bound ≤ decimal.countedMagnitude ∧
          width.coerce (Utf8.encode text) = .error (.floatOutOfRange text) ∨
        decimal.countedMagnitude < width.bound ∧
          ∃ value, width.coerce (Utf8.encode text) = .ok value ∧
            value.IsNumber decimal.sign.isNegative)) ∨
      (∃ sign, (Spells text sign "inf" ∨ Spells text sign "infinity") ∧
        width.coerce (Utf8.encode text) = .ok (.infinity sign.isNegative)) ∨
      (∃ sign, Spells text sign "nan" ∧
        width.coerce (Utf8.encode text) = .ok (.nan sign.isNegative)) ∨
      ∃ cause, width.coerce (Utf8.encode text) = .error (.parseFloat cause) := by
  by_cases hdecimal : ∃ decimal : DecimalText, decimal.text = text
  · obtain ⟨decimal, rfl⟩ := hdecimal
    exact .inl ⟨decimal, rfl, width.coerce_decimal decimal⟩
  right
  by_cases hname : ∃ sign, Spells text sign "inf" ∨ Spells text sign "infinity" ∨
      Spells text sign "nan"
  · obtain ⟨sign, h | h | h⟩ := hname
    · exact .inl ⟨sign, .inl h, FromText.float_infinity (.inl h)⟩
    · exact .inl ⟨sign, .inr h, FromText.float_infinity (.inr h)⟩
    · exact .inr (.inl ⟨sign, h, FromText.float_nan h⟩)
  · exact .inr (.inr (FromText.float_other hdecimal hname))

theorem value_cases {width : FloatWidth} {text : String} {value : FloatValue width.format}
    (h : width.coerce (Utf8.encode text) = .ok value) :
    (∃ negative, value.IsNumber negative) ∨
      (∃ sign, (Spells text sign "inf" ∨ Spells text sign "infinity") ∧
        value = .infinity sign.isNegative) ∨
      ∃ sign, Spells text sign "nan" ∧ value = .nan sign.isNegative := by
  obtain ⟨decimal, rfl, ⟨-, hread⟩ | ⟨-, number, hread, hnumber⟩⟩ | ⟨sign, hname, hread⟩ |
    ⟨sign, hname, hread⟩ | ⟨cause, hread⟩ := width.coerce_cases text
  · cases h.symm.trans hread
  · cases h.symm.trans hread
    exact .inl ⟨decimal.sign.isNegative, hnumber⟩
  · exact .inr (.inl ⟨sign, hname, Except.ok.inj (h.symm.trans hread)⟩)
  · exact .inr (.inr ⟨sign, hname, Except.ok.inj (h.symm.trans hread)⟩)
  · cases h.symm.trans hread

theorem coerce_eq_infinity_iff {width : FloatWidth} {text : String} {negative : Bool} :
    width.coerce (Utf8.encode text) = .ok (.infinity negative) ↔
      ∃ sign : Sign, sign.isNegative = negative ∧
        (Spells text sign "inf" ∨ Spells text sign "infinity") := by
  constructor
  · intro h
    obtain ⟨_, _, -, _, -, hvalue⟩ | ⟨sign, hname, hvalue⟩ | ⟨sign, -, hvalue⟩ := value_cases h
    · cases hvalue
    · cases hvalue
      exact ⟨sign, rfl, hname⟩
    · cases hvalue
  · rintro ⟨sign, rfl, h⟩
    exact FromText.float_infinity h

theorem coerce_eq_nan_iff {width : FloatWidth} {text : String} {negative : Bool} :
    width.coerce (Utf8.encode text) = .ok (.nan negative) ↔
      ∃ sign : Sign, sign.isNegative = negative ∧ Spells text sign "nan" := by
  constructor
  · intro h
    obtain ⟨_, _, -, _, -, hvalue⟩ | ⟨sign, -, hvalue⟩ | ⟨sign, hname, hvalue⟩ := value_cases h
    · cases hvalue
    · cases hvalue
    · cases hvalue
      exact ⟨sign, rfl, hname⟩
  · rintro ⟨sign, rfl, h⟩
    exact FromText.float_nan h

theorem coerce_eq_floatOutOfRange_iff {width : FloatWidth} {text literal : String} :
    width.coerce (Utf8.encode text) = .error (.floatOutOfRange literal) ↔
      literal = text ∧ ∃ decimal : DecimalText, decimal.text = text ∧
        width.bound ≤ decimal.countedMagnitude := by
  constructor
  · intro h
    obtain ⟨decimal, rfl, ⟨hbound, hread⟩ | ⟨-, value, hread, -⟩⟩ | ⟨sign, -, hread⟩ |
      ⟨sign, -, hread⟩ | ⟨cause, hread⟩ := width.coerce_cases text
    · cases h.symm.trans hread
      exact ⟨rfl, decimal, rfl, hbound⟩
    all_goals cases h.symm.trans hread
  · rintro ⟨rfl, decimal, rfl, hbound⟩
    obtain ⟨-, hread⟩ | ⟨hbelow, -⟩ := width.coerce_decimal decimal
    · exact hread
    · exact absurd hbound (not_le_of_gt hbelow)

theorem coerce_eq_parseFloat_iff {width : FloatWidth} {text : String} :
    (∃ cause, width.coerce (Utf8.encode text) = .error (.parseFloat cause)) ↔
      (¬ ∃ decimal : DecimalText, decimal.text = text) ∧
        ¬ ∃ sign, Spells text sign "inf" ∨ Spells text sign "infinity" ∨
          Spells text sign "nan" := by
  constructor
  · rintro ⟨cause, h⟩
    constructor
    · rintro ⟨decimal, rfl⟩
      obtain ⟨-, hread⟩ | ⟨-, value, hread, -⟩ := width.coerce_decimal decimal
      · cases h.symm.trans hread
      · cases h.symm.trans hread
    · rintro ⟨sign, hname | hname | hname⟩
      · cases h.symm.trans (FromText.float_infinity (.inl hname))
      · cases h.symm.trans (FromText.float_infinity (.inr hname))
      · cases h.symm.trans (FromText.float_nan hname)
  · rintro ⟨hdecimal, hname⟩
    exact FromText.float_other hdecimal hname

theorem coerce_of_lt {width : FloatWidth} {decimal : DecimalText}
    (h : decimal.countedMagnitude < width.bound) :
    ∃ value, width.coerce (Utf8.encode decimal.text) = .ok value ∧
      value.IsNumber decimal.sign.isNegative := by
  obtain ⟨hbound, -⟩ | ⟨-, hread⟩ := width.coerce_decimal decimal
  · exact absurd hbound (not_le_of_gt h)
  · exact hread

theorem coerce_narrow {bytes : Bytes} {literal : String}
    (h : double.coerce bytes = .error (.floatOutOfRange literal)) :
    single.coerce bytes = .error (.floatOutOfRange literal) := by
  by_cases htext : ∃ text, bytes = Utf8.encode text
  · obtain ⟨text, rfl⟩ := htext
    obtain ⟨rfl, decimal, htext, hbound⟩ := coerce_eq_floatOutOfRange_iff.mp h
    exact coerce_eq_floatOutOfRange_iff.mpr
      ⟨rfl, decimal, htext, single_bound_le_double_bound.trans hbound⟩
  · have hread : double.coerce bytes = .error .invalidUtf8 := by
      simp only [coerce, FromText.fromText, FromText.float, FromText.text_of_not_encode htext]
      rfl
    cases h.symm.trans hread

theorem le_countedMagnitude_iff (width : FloatWidth) {decimal : DecimalText}
    (h : decimal.digits.length ≤ 65227) :
    width.bound ≤ decimal.countedMagnitude ↔ width.bound ≤ decimal.magnitude :=
  DecimalText.le_countedMagnitude_iff width.one_lt_bound.le width.bound_le (by omega)

/-- An infinity is read from its name only, and a literal is out of range exactly from the bound on.
The digits of an exponent that do not count make no difference, unless some 65 thousand others stand
in front of them. -/
theorem overflow_reported :
    (∀ (width : FloatWidth) (text : String),
      (∀ negative, width.coerce (Utf8.encode text) = .ok (.infinity negative) ↔
        ∃ sign : Sign, sign.isNegative = negative ∧
          (Spells text sign "inf" ∨ Spells text sign "infinity")) ∧
      (∀ literal, width.coerce (Utf8.encode text) = .error (.floatOutOfRange literal) ↔
        literal = text ∧ ∃ decimal : DecimalText, decimal.text = text ∧
          width.bound ≤ decimal.countedMagnitude) ∧
      (∀ decimal : DecimalText, decimal.text = text → decimal.countedMagnitude < width.bound →
        ∃ value, width.coerce (Utf8.encode text) = .ok value ∧
          value.IsNumber decimal.sign.isNegative) ∧
      (∀ negative, width.coerce (Utf8.encode text) = .ok (.nan negative) ↔
        ∃ sign : Sign, sign.isNegative = negative ∧ Spells text sign "nan") ∧
      ((∃ cause, width.coerce (Utf8.encode text) = .error (.parseFloat cause)) ↔
        (¬ ∃ decimal : DecimalText, decimal.text = text) ∧
          ¬ ∃ sign, Spells text sign "inf" ∨ Spells text sign "infinity" ∨
            Spells text sign "nan")) ∧
    (∀ (bytes : Bytes) (literal : String),
      double.coerce bytes = .error (.floatOutOfRange literal) →
        single.coerce bytes = .error (.floatOutOfRange literal)) ∧
    ∀ (width : FloatWidth) (decimal : DecimalText),
      (decimal.writtenExponent.natAbs < 655360 → decimal.countedMagnitude = decimal.magnitude) ∧
      (decimal.digits.length ≤ 65227 →
        (width.bound ≤ decimal.countedMagnitude ↔ width.bound ≤ decimal.magnitude)) := by
  refine ⟨fun width text ↦ ⟨?_, ?_, ?_, ?_, ?_⟩, ?_, fun width decimal ↦ ⟨?_, ?_⟩⟩
  · intro negative
    exact coerce_eq_infinity_iff
  · intro literal
    exact coerce_eq_floatOutOfRange_iff
  · rintro decimal rfl hbelow
    exact coerce_of_lt hbelow
  · intro negative
    exact coerce_eq_nan_iff
  · exact coerce_eq_parseFloat_iff
  · intro bytes literal h
    exact coerce_narrow h
  · intro hexponent
    exact DecimalText.countedMagnitude_of_lt hexponent
  · intro hlength
    exact width.le_countedMagnitude_iff hlength

/-- A number past those of both widths, and a tenth. -/
theorem overflow_reported_tenth :
    (DecimalText.one 0 (.ofNat 310)).writtenExponent.natAbs < 655360 ∧
      (DecimalText.one 0 (.ofNat 310)).digits.length ≤ 65227 ∧
      single.coerce (Utf8.encode (DecimalText.one 0 (.ofNat 310)).text) =
        .error (.floatOutOfRange (DecimalText.one 0 (.ofNat 310)).text) ∧
      ∃ value, single.coerce (Utf8.encode (DecimalText.one 0 (.ofNat 0)).text) = .ok value ∧
        value.IsNumber false := by
  obtain ⟨hread, hnarrow, hexact⟩ := overflow_reported
  have hexponent : (DecimalText.one 0 (.ofNat 310)).writtenExponent.natAbs < 655360 := by decide
  have hlength : (DecimalText.one 0 (.ofNat 310)).digits.length ≤ 65227 := by decide
  have hlarge : double.bound ≤ (DecimalText.one 0 (.ofNat 310)).magnitude := by
    rw [DecimalText.magnitude_one]
    exact double.bound_le
  have hcounted := ((hexact double _).2 hlength).mpr hlarge
  obtain ⟨-, hreported, -⟩ := hread double (DecimalText.one 0 (.ofNat 310)).text
  obtain ⟨-, -, hfinite, -⟩ := hread single (DecimalText.one 0 (.ofNat 0)).text
  have hsmall : (DecimalText.one 0 (.ofNat 0)).countedMagnitude < single.bound := by
    rw [(hexact single _).1 (by decide), DecimalText.magnitude_one]
    exact (zpow_lt_one_of_neg₀ (by norm_num) (by decide)).trans single.one_lt_bound
  exact ⟨hexponent, hlength, hnarrow _ _ ((hreported _).mpr ⟨rfl, _, rfl, hcounted⟩),
    hfinite _ rfl hsmall⟩

theorem coerce_far (width : FloatWidth) :
    width.bound ≤ (DecimalText.one 65535 (.ofNat 655360)).magnitude ∧
      ∃ value, width.coerce (Utf8.encode (DecimalText.one 65535 (.ofNat 655360)).text) = .ok value ∧
        value.IsNumber false := by
  have hlarge : width.bound ≤ (DecimalText.one 65535 (.ofNat 655360)).magnitude := by
    rw [DecimalText.magnitude_one, Numeral.value_ofNat]
    calc
      width.bound ≤ 10 ^ 309 := width.bound_le
      _ ≤ 10 ^ (655360 - (65535 + 1)) := pow_le_pow_right₀ (by norm_num) (by norm_num)
      _ = 10 ^ ((655360 : Nat) - ((65535 : Nat) + 1) : Int) := (zpow_natCast _ _).symm
  have hcounted : (DecimalText.one 65535 (.ofNat 655360)).countedExponent = 65536 := by decide
  have hsmall : (DecimalText.one 65535 (.ofNat 655360)).countedMagnitude < width.bound := by
    rw [DecimalText.countedMagnitude_one, hcounted]
    exact width.one_lt_bound
  exact ⟨hlarge, coerce_of_lt hsmall⟩

/-- A literal with its digit far behind the point, and with an exponent of which the last digit does
not count. -/
theorem overflow_unreported_far :
    (single.bound ≤ (DecimalText.one 65535 (.ofNat 655360)).magnitude ∧
      ∃ value, single.coerce (Utf8.encode (DecimalText.one 65535 (.ofNat 655360)).text) =
        .ok value ∧ value.IsNumber false) ∧
    double.bound ≤ (DecimalText.one 65535 (.ofNat 655360)).magnitude ∧
      ∃ value, double.coerce (Utf8.encode (DecimalText.one 65535 (.ofNat 655360)).text) =
        .ok value ∧ value.IsNumber false :=
  ⟨coerce_far single, coerce_far double⟩

end FloatWidth

end SqlClient
