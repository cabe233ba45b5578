import Mathlib.Algebra.Group.Nat.Defs
import SqlClient.Bytes

namespace SqlClient

inductive Sign
  | none
  | plus
  | minus
  deriving DecidableEq, Repr

namespace Sign

def chars : Sign → List Char
  | none => []
  | plus => ['+']
  | minus => ['-']

def isNegative : Sign → Bool
  | minus => true
  | _ => false

def apply (sign : Sign) (magnitude : Nat) : Int :=
  if sign.isNegative then -magnitude else magnitude

end Sign

structure Numeral where
  sign : Sign
  digits : List Char
  digits_ne_nil : digits ≠ []
  isDigit_of_mem : ∀ c ∈ digits, c.isDigit = true

namespace Numeral

def chars (numeral : Numeral) : List Char :=
  numeral.sign.chars ++ numeral.digits

def text (numeral : Numeral) : String :=
  String.ofList numeral.chars

def magnitude (numeral : Numeral) : Nat :=
  Nat.ofDigitChars 10 numeral.digits 0

def value (numeral : Numeral) : Int :=
  numeral.sign.apply numeral.magnitude

theorem natAbs_value (numeral : Numeral) : numeral.value.natAbs = numeral.magnitude := by
  unfold value Sign.apply
  split <;> omega

theorem ne_of_isDigit {c d : Char} (hc : c.isDigit = true) (hd : d.isDigit = false) : c ≠ d := by
  rintro rfl
  cases hc.symm.trans hd

/-- A number never shrinks as digits are added to it. -/
theorem le_ofDigitChars (digits : List Char) (n : Nat) : n ≤ Nat.ofDigitChars 10 digits n := by
  have hpos : 0 < 10 ^ digits.length := Nat.pow_pos (by decide)
  rw [Nat.ofDigitChars_eq_ofDigitChars_zero]
  exact Nat.le_trans (Nat.le_mul_of_pos_left n hpos) (Nat.le_add_right ..)

theorem ofDigitChars_lt {digits : List Char} (h : ∀ c ∈ digits, c.isDigit = true) :
    Nat.ofDigitChars 10 digits 0 < 10 ^ digits.length := by
  induction digits with
  | nil => decide
  | cons c digits ih =>
    rw [List.forall_mem_cons] at h
    have hrest : Nat.ofDigitChars 10 digits 0 < 10 ^ digits.length := ih h.2
    have hdigit : c.toNat - '0'.toNat ≤ 9 :=
      Nat.sub_le_sub_right (Char.isDigit_iff_toNat.mp h.1).2 _
    have hle := Nat.mul_le_mul_left (10 ^ digits.length) hdigit
    rw [Nat.ofDigitChars_cons, Nat.ofDigitChars_eq_ofDigitChars_zero, List.length_cons,
      Nat.pow_succ, Nat.mul_zero, Nat.zero_add]
    omega

def ofNat (n : Nat) : Numeral where
  sign := .none
  digits := Nat.toDigits 10 n
  digits_ne_nil := Nat.toDigits_ne_nil
  isDigit_of_mem _ := Nat.isDigit_of_mem_toDigits (by decide) (by decide)

theorem magnitude_ofNat (n : Nat) : (ofNat n).magnitude = n :=
  Nat.ofDigitChars_ten_toDigits

theorem value_ofNat (n : Nat) : (ofNat n).value = n :=
  congrArg Int.ofNat (magnitude_ofNat n)

def ofInt (n : Int) : Numeral :=
  if n < 0 then { ofNat n.natAbs with sign := .minus } else ofNat n.natAbs

theorem value_ofInt (n : Int) : (ofInt n).value = n := by
  have hmagnitude := magnitude_ofNat n.natAbs
  unfold ofInt
  split
  · change -((ofNat n.natAbs).magnitude : Int) = n
    omega
  · change ((ofNat n.natAbs).magnitude : Int) = n
    omega

theorem text_ofInt (n : Int) : (ofInt n).text = toString n := by
  unfold ofInt text
  cases n with
  | ofNat n =>
    rw [if_neg (by simp)]
    exact Nat.repr_eq_ofList_toDigits.symm
  | negSucc n =>
    rw [if_pos (Int.negSucc_lt_zero n)]
    change String.ofList ('-' :: Nat.toDigits 10 (n + 1)) = "-" ++ (n + 1).repr
    rw [Nat.repr_eq_ofList_toDigits, ← String.toList_inj]
    simp

end Numeral

end SqlClient
