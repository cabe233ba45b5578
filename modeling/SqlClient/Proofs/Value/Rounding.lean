import Mathlib.Algebra.Order.Field.Rat
import Mathlib.Tactic.NormNum
import Mathlib.Tactic.Positivity
import Mathlib.Tactic.Ring
import SqlClient.Value.Float

namespace SqlClient

theorem roundHalfEven_le {num den k : Nat} (h : num < den * k) : roundHalfEven num den ≤ k := by
  have hq : num / den < k := Nat.div_lt_of_lt_mul h
  unfold roundHalfEven
  grind

/-- A tie goes up to an even number, as what lies past the tie does. -/
theorem le_roundHalfEven_iff {num den k : Nat} (hden : 0 < den) (hpos : 0 < k) (heven : k % 2 = 0) :
    k ≤ roundHalfEven num den ↔ (2 * k - 1) * den ≤ 2 * num := by
  have hsplit : den * (num / den) + num % den = num := Nat.div_add_mod num den
  have hlt : num % den < den := Nat.mod_lt num hden
  unfold roundHalfEven
  dsimp only
  generalize num / den = q at *
  generalize num % den = r at *
  obtain hk | rfl | hk : k ≤ q ∨ k = q + 1 ∨ q + 2 ≤ k := by omega
  · have hmul : den * k ≤ den * q := Nat.mul_le_mul_left den hk
    have hle : (2 * k - 1) * den ≤ 2 * num := by
      rw [Nat.sub_mul, Nat.mul_assoc, Nat.mul_comm k]
      omega
    grind
  · have hodd : q % 2 = 1 := by omega
    have hnum : (2 * (q + 1) - 1) * den = 2 * (den * q) + den := by
      rw [show 2 * (q + 1) - 1 = 2 * q + 1 by omega]
      ring
    rw [hnum]
    grind
  · have hmul : den * (q + 2) ≤ den * k := Nat.mul_le_mul_left den hk
    have hnot : ¬ (2 * k - 1) * den ≤ 2 * num := by
      rw [Nat.sub_mul, Nat.mul_assoc, Nat.mul_comm k]
      rw [Nat.mul_add] at hmul
      omega
    grind

/-- The number of binary digits. -/
theorem bitLength_le_iff {n k : Nat} : (if n = 0 then 0 else n.log2 + 1) ≤ k ↔ n < 2 ^ k := by
  split
  · next h => simp [h]
  · next h => rw [Nat.add_one_le_iff, Nat.log2_lt h]

namespace FloatFormat

structure Proper (format : FloatFormat) : Prop where
  precision_pos : 0 < format.precision
  maxShift_pos : 0 < format.maxShift

theorem proper_single : Proper single := ⟨by decide, by decide⟩

theorem proper_double : Proper double := ⟨by decide, by decide⟩

/-- Half a step past the largest number, in units. -/
def overflowUnits (format : FloatFormat) : Nat :=
  (2 ^ (format.precision + 1) - 1) * 2 ^ (format.maxShift - 1)

end FloatFormat

def FloatValue.IsNumber {format : FloatFormat} (negative : Bool) (value : FloatValue format) :
    Prop :=
  ∃ significand < 2 ^ format.precision, ∃ shift ≤ format.maxShift,
    value = .finite negative significand shift

namespace FloatFormat

variable {format : FloatFormat}

def lostPlaces (format : FloatFormat) (whole : Nat) : Nat :=
  (if whole = 0 then 0 else whole.log2 + 1) - format.precision

theorem lostPlaces_le_iff {whole k : Nat} :
    format.lostPlaces whole ≤ k ↔ whole < 2 ^ (k + format.precision) := by
  rw [lostPlaces, Nat.sub_le_iff_le_add, bitLength_le_iff]

def significand (format : FloatFormat) (units den : Nat) : Nat :=
  roundHalfEven units (den * 2 ^ format.lostPlaces (units / den))

theorem round_eq (negative : Bool) (num den : Nat) :
    format.round negative num den =
      let units := num * 2 ^ format.scale
      let shift := format.lostPlaces (units / den)
      if format.significand units den = 2 ^ format.precision then
        if format.maxShift < shift + 1 then .infinity negative
        else .finite negative (2 ^ (format.precision - 1)) (shift + 1)
      else if format.maxShift < shift then .infinity negative
      else .finite negative (format.significand units den) shift := by
  simp only [round, Nat.shiftLeft_eq, Nat.one_mul, significand, lostPlaces]
  split_ifs <;> rfl

theorem significand_le (format : FloatFormat) (units : Nat) {den : Nat} (hden : 0 < den) :
    format.significand units den ≤ 2 ^ format.precision := by
  have hwhole : units / den < 2 ^ (format.lostPlaces (units / den) + format.precision) :=
    lostPlaces_le_iff.mp (Nat.le_refl _)
  rw [Nat.div_lt_iff_lt_mul hden, Nat.mul_comm, Nat.pow_add, ← Nat.mul_assoc] at hwhole
  exact roundHalfEven_le hwhole

theorem overflowUnits_le (hproper : format.Proper) :
    format.overflowUnits ≤ 2 ^ (format.maxShift + format.precision) := by
  have hexponent : format.maxShift + format.precision =
      format.precision + 1 + (format.maxShift - 1) := by
    have := hproper.maxShift_pos
    omega
  rw [overflowUnits, hexponent, Nat.pow_add _ (format.precision + 1)]
  exact Nat.mul_le_mul_right _ (Nat.sub_le ..)

theorem le_overflowUnits (format : FloatFormat) :
    2 ^ (format.maxShift - 1 + format.precision) ≤ format.overflowUnits := by
  have hpos : 0 < 2 ^ format.precision := Nat.pow_pos (by decide)
  have hpow : 2 ^ (format.precision + 1) = 2 ^ format.precision * 2 := Nat.pow_succ ..
  rw [overflowUnits, Nat.pow_add, Nat.mul_comm]
  exact Nat.mul_le_mul_right _ (by omega)

theorem overflowUnits_pos (format : FloatFormat) : 0 < format.overflowUnits :=
  (Nat.pow_pos (by decide)).trans_le (le_overflowUnits format)

theorem two_mul_overflowUnits (hproper : format.Proper) :
    2 * format.overflowUnits = (2 * 2 ^ format.precision - 1) * 2 ^ format.maxShift := by
  obtain ⟨m, hm⟩ := Nat.exists_eq_add_of_lt hproper.maxShift_pos
  rw [overflowUnits, hm, Nat.pow_succ']
  simp only [Nat.zero_add, Nat.add_sub_cancel]
  ring

/-- At the last place the significand decides. -/
theorem significand_eq_iff (hproper : format.Proper) {units den : Nat} (hden : 0 < den)
    (hshift : format.lostPlaces (units / den) = format.maxShift) :
    format.significand units den = 2 ^ format.precision ↔ format.overflowUnits * den ≤ units := by
  have heven : 2 ^ format.precision % 2 = 0 := by
    obtain ⟨m, hm⟩ := Nat.exists_eq_add_of_lt hproper.precision_pos
    rw [hm, Nat.pow_succ]
    exact Nat.mul_mod_left ..
  have hle := significand_le format units hden
  rw [Nat.le_antisymm_iff, and_iff_right hle, significand, hshift]
  rw [le_roundHalfEven_iff (by positivity) (by positivity) heven]
  have hdouble : (2 * 2 ^ format.precision - 1) * (den * 2 ^ format.maxShift) =
      2 * (format.overflowUnits * den) := by
    rw [Nat.mul_left_comm, ← two_mul_overflowUnits hproper]
    ring
  rw [hdouble]
  omega

theorem round_cases (hproper : format.Proper) (negative : Bool) (num : Nat) {den : Nat}
    (hden : 0 < den) :
    (format.overflowUnits * den ≤ num * 2 ^ format.scale ∧
        format.round negative num den = .infinity negative) ∨
      num * 2 ^ format.scale < format.overflowUnits * den ∧
        (format.round negative num den).IsNumber negative := by
  rw [round_eq]
  generalize num * 2 ^ format.scale = units
  have hle := significand_le format units hden
  obtain hshift | hshift | hshift := Nat.lt_trichotomy format.maxShift
    (format.lostPlaces (units / den))
  · -- More places are lost than the largest shift makes up for.
    left
    have hwhole : ¬ units / den < 2 ^ (format.maxShift + format.precision) := by
      rw [← lostPlaces_le_iff]
      exact Nat.not_le_of_lt hshift
    rw [Nat.div_lt_iff_lt_mul hden] at hwhole
    refine ⟨?_, by simp [hshift, Nat.lt_succ_of_lt hshift]⟩
    exact (Nat.mul_le_mul_right den (overflowUnits_le hproper)).trans (Nat.le_of_not_lt hwhole)
  · -- The largest shift makes up for them, so there is no room for a carry.
    have hiff := significand_eq_iff hproper hden hshift.symm
    by_cases hcarry : format.significand units den = 2 ^ format.precision
    · left
      exact ⟨hiff.mp hcarry, by simp [hcarry, ← hshift]⟩
    · right
      refine ⟨Nat.lt_of_not_le fun h ↦ hcarry (hiff.mpr h), _, Nat.lt_of_le_of_ne hle hcarry, _,
        Nat.le_refl _, ?_⟩
      simp [hcarry, ← hshift]
  · -- There is room for a carry.
    right
    have hwhole : units / den < 2 ^ (format.maxShift - 1 + format.precision) := by
      rw [← lostPlaces_le_iff]
      omega
    rw [Nat.div_lt_iff_lt_mul hden] at hwhole
    refine ⟨hwhole.trans_le (Nat.mul_le_mul_right den (le_overflowUnits format)), ?_⟩
    by_cases hcarry : format.significand units den = 2 ^ format.precision
    · refine ⟨_, Nat.pow_lt_pow_right (by decide) (Nat.sub_one_lt hproper.precision_pos.ne'), _,
        hshift, ?_⟩
      simp [hcarry, Nat.not_lt_of_le hshift]
    · refine ⟨_, Nat.lt_of_le_of_ne hle hcarry, _, hshift.le, ?_⟩
      simp [hcarry, Nat.not_lt_of_lt hshift]

def overflowBound (format : FloatFormat) : ℚ :=
  format.overflowUnits / 2 ^ format.scale

theorem overflowBound_eq {k top : Nat} (hmax : format.maxShift = k + 1 + format.scale)
    (htop : top = format.precision + 1 + k) : format.overflowBound = 2 ^ top - 2 ^ k := by
  have hshift : format.maxShift - 1 = k + format.scale := by omega
  have hone : 1 ≤ 2 ^ (format.precision + 1) := Nat.one_le_two_pow
  rw [htop, overflowBound, overflowUnits, hshift, div_eq_iff (by positivity)]
  push_cast [hone]
  ring

theorem overflowBound_single : single.overflowBound = 2 ^ 128 - 2 ^ 103 :=
  overflowBound_eq rfl rfl

theorem overflowBound_double : double.overflowBound = 2 ^ 1024 - 2 ^ 970 :=
  overflowBound_eq rfl rfl

theorem overflowBound_pos (format : FloatFormat) : 0 < format.overflowBound := by
  have hunits : 0 < format.overflowUnits := overflowUnits_pos format
  rw [overflowBound]
  positivity

theorem overflowBound_le_div_iff {num den : Nat} (hden : 0 < den) :
    format.overflowBound ≤ (num : ℚ) / den ↔
      format.overflowUnits * den ≤ num * 2 ^ format.scale := by
  rw [overflowBound, div_le_div_iff₀ (by positivity) (by positivity)]
  exact_mod_cast Iff.rfl

theorem round_cases_div (hproper : format.Proper) (negative : Bool) (num : Nat) {den : Nat}
    (hden : 0 < den) :
    (format.overflowBound ≤ (num : ℚ) / den ∧
        format.round negative num den = .infinity negative) ∨
      (num : ℚ) / den < format.overflowBound ∧
        (format.round negative num den).IsNumber negative := by
  rw [← not_le, overflowBound_le_div_iff hden, Nat.not_le]
  exact round_cases hproper negative num hden

end FloatFormat

namespace DecimalLiteral

variable {format : FloatFormat}

def magnitude (literal : DecimalLiteral) : ℚ :=
  literal.coefficient * 10 ^ literal.exponent

theorem two_pow_le_ten_pow (n : Nat) : 2 ^ n ≤ 10 ^ n :=
  Nat.pow_le_pow_left (by decide) n

/-- A literal that is too large whatever its digits are. -/
theorem overflowUnits_le_of_exponent (hproper : format.Proper) {coefficient n : Nat}
    (hpos : 0 < coefficient) (h : format.maxShift + format.precision ≤ n + format.scale) :
    format.overflowUnits ≤ coefficient * 10 ^ n * 2 ^ format.scale :=
  calc
    format.overflowUnits ≤ 2 ^ (format.maxShift + format.precision) :=
      FloatFormat.overflowUnits_le hproper
    _ ≤ 2 ^ (n + format.scale) := Nat.pow_le_pow_right (by decide) h
    _ = 2 ^ n * 2 ^ format.scale := Nat.pow_add ..
    _ ≤ coefficient * 10 ^ n * 2 ^ format.scale :=
      Nat.mul_le_mul_right _ ((two_pow_le_ten_pow n).trans (Nat.le_mul_of_pos_left _ hpos))

/-- A literal that is below the smallest number of all. -/
theorem lt_overflowUnits_of_exponent (format : FloatFormat) {coefficient n : Nat}
    (h : coefficient.log2 + 1 + format.scale ≤ n) :
    coefficient * 2 ^ format.scale < format.overflowUnits * 10 ^ (n + 1) := by
  calc
    coefficient * 2 ^ format.scale < 2 ^ (coefficient.log2 + 1) * 2 ^ format.scale :=
      Nat.mul_lt_mul_of_pos_right Nat.lt_log2_self (by positivity)
    _ = 2 ^ (coefficient.log2 + 1 + format.scale) := (Nat.pow_add ..).symm
    _ ≤ 2 ^ (n + 1) := Nat.pow_le_pow_right (by decide) (by omega)
    _ ≤ 10 ^ (n + 1) := two_pow_le_ten_pow (n + 1)
    _ ≤ format.overflowUnits * 10 ^ (n + 1) :=
      Nat.le_mul_of_pos_left _ (FloatFormat.overflowUnits_pos format)

theorem isNumber_zero (format : FloatFormat) (negative : Bool) :
    (FloatValue.finite negative 0 0 : FloatValue format).IsNumber negative :=
  ⟨0, by positivity, 0, Nat.zero_le _, rfl⟩

/-- A literal that is rounded is an infinity or a number, as its magnitude says. -/
theorem round_cases (hproper : format.Proper) (literal : DecimalLiteral) :
    (format.overflowBound ≤ literal.magnitude ∧
        literal.round format = .infinity literal.negative) ∨
      literal.magnitude < format.overflowBound ∧
        (literal.round format).IsNumber literal.negative := by
  obtain ⟨negative, coefficient, exponent⟩ := literal
  by_cases hzero : coefficient = 0
  · right
    refine ⟨?_, by simp [round, hzero, isNumber_zero]⟩
    simp [magnitude, hzero, FloatFormat.overflowBound_pos]
  have hpos : 0 < coefficient := Nat.pos_of_ne_zero hzero
  cases exponent with
  | ofNat n =>
    have hmagnitude : (⟨negative, coefficient, .ofNat n⟩ : DecimalLiteral).magnitude =
        ((coefficient * 10 ^ n : Nat) : ℚ) / (1 : Nat) := by
      simp [magnitude]
    rw [hmagnitude]
    by_cases hlarge : format.maxShift + format.precision ≤ n + format.scale
    · left
      rw [FloatFormat.overflowBound_le_div_iff Nat.one_pos, Nat.mul_one]
      exact ⟨overflowUnits_le_of_exponent hproper hpos hlarge, by simp [round, hzero, hlarge]⟩
    · rw [round, if_neg hzero, if_neg hlarge]
      exact FloatFormat.round_cases_div hproper negative _ Nat.one_pos
  | negSucc n =>
    have hmagnitude : (⟨negative, coefficient, .negSucc n⟩ : DecimalLiteral).magnitude =
        (coefficient : ℚ) / (10 ^ (n + 1) : Nat) := by
      simp [magnitude, div_eq_mul_inv]
    have hden : 0 < 10 ^ (n + 1) := Nat.pow_pos (by decide)
    rw [hmagnitude]
    by_cases hsmall : coefficient.log2 + 1 + format.scale ≤ n
    · right
      rw [← not_le, FloatFormat.overflowBound_le_div_iff hden, Nat.not_le]
      rw [round, if_neg hzero, if_pos hsmall]
      exact ⟨lt_overflowUnits_of_exponent format hsmall, isNumber_zero format negative⟩
    · rw [round, if_neg hzero, if_neg hsmall]
      exact FloatFormat.round_cases_div hproper negative _ hden

end DecimalLiteral

end SqlClient
