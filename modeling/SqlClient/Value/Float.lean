import SqlClient.Error

namespace SqlClient

/-- A binary format. Its finite numbers are `significand * 2 ^ shift` units of `2 ^ (-scale)`, with
significands below `2 ^ precision` and shifts up to `maxShift`. -/
structure FloatFormat where
  precision : Nat
  scale : Nat
  maxShift : Nat

namespace FloatFormat

def single : FloatFormat := ⟨24, 149, 253⟩

def double : FloatFormat := ⟨53, 1074, 2045⟩

end FloatFormat

inductive FloatValue (format : FloatFormat)
  | finite (negative : Bool) (significand shift : Nat)
  | infinity (negative : Bool)
  | nan (negative : Bool)
  deriving DecidableEq, Repr

namespace FloatValue

variable {format : FloatFormat}

instance : Inhabited (FloatValue format) := ⟨.finite false 0 0⟩

def isInfinite : FloatValue format → Bool
  | .infinity _ => true
  | _ => false

def signBit (format : FloatFormat) (negative : Bool) : Nat :=
  if negative then (format.maxShift + 3) <<< (format.precision - 1) else 0

/-- The interchange encoding. A finite magnitude counts the numbers of the format below it, so the
leading bit of the significand needs no case of its own. -/
def toBits : FloatValue format → Nat
  | .finite negative significand shift =>
    signBit format negative + shift <<< (format.precision - 1) + significand
  | .infinity negative =>
    signBit format negative + (format.maxShift + 2) <<< (format.precision - 1)
  | .nan negative =>
    signBit format negative + (format.maxShift + 2) <<< (format.precision - 1) +
      1 <<< (format.precision - 2)

end FloatValue

def roundHalfEven (num den : Nat) : Nat :=
  let q := num / den
  let r := num % den
  if 2 * r < den then q
  else if den < 2 * r then q + 1
  else if q % 2 = 0 then q
  else q + 1

namespace FloatFormat

variable (format : FloatFormat)

/-- The number of the format nearest to `num / den`, or an infinity if that lies past the finite
numbers by half a step or more. -/
def round (negative : Bool) (num den : Nat) : FloatValue format :=
  let units := num <<< format.scale
  let whole := units / den
  let shift := (if whole = 0 then 0 else whole.log2 + 1) - format.precision
  let significand := roundHalfEven units (den <<< shift)
  let (significand, shift) :=
    if significand = 1 <<< format.precision then (1 <<< (format.precision - 1), shift + 1)
    else (significand, shift)
  if format.maxShift < shift then .infinity negative else .finite negative significand shift

end FloatFormat

structure DecimalLiteral where
  negative : Bool
  coefficient : Nat
  exponent : Int
  deriving DecidableEq, Repr

namespace DecimalLiteral

def ofDigits (digits : List Char) : Nat :=
  digits.foldl (fun n c ↦ n * 10 + (c.toNat - 48)) 0

/-- An exponent that has reached this size is not read any further. -/
def exponentLimit : Nat := 0x10000

def exponentOfDigits (digits : List Char) : Nat :=
  digits.foldl (fun n c ↦ if n < exponentLimit then n * 10 + (c.toNat - 48) else n) 0

def exponent? (text : List Char) : Option Int :=
  let (negative, digits) :=
    match text with
    | '-' :: digits => (true, digits)
    | '+' :: digits => (false, digits)
    | digits => (false, digits)
  if digits.isEmpty || !digits.all Char.isDigit then none
  else some (if negative then -(exponentOfDigits digits : Int) else exponentOfDigits digits)

def splitFraction : List Char → List Char × List Char
  | '.' :: text => text.span Char.isDigit
  | text => ([], text)

def ending? : List Char → Option Int
  | [] => some 0
  | c :: text => if c = 'e' ∨ c = 'E' then exponent? text else none

def ofUnsigned? (negative : Bool) (text : List Char) : Option DecimalLiteral := do
  let (whole, text) := text.span Char.isDigit
  let (fraction, text) := splitFraction text
  guard !(whole ++ fraction).isEmpty
  let exponent ← ending? text
  return { negative, coefficient := ofDigits (whole ++ fraction)
           exponent := exponent - fraction.length }

variable (format : FloatFormat) (literal : DecimalLiteral)

/-- The nearest number of the format. Literals too large or too small for any doubt about the
result are settled by their exponent, so that no huge power is ever computed. -/
def round : FloatValue format :=
  let ⟨negative, coefficient, exponent⟩ := literal
  if coefficient = 0 then .finite negative 0 0
  else
    match exponent with
    | .ofNat n =>
      if format.maxShift + format.precision ≤ n + format.scale then .infinity negative
      else format.round negative (coefficient * Nat.pow 10 n) 1
    | .negSucc n =>
      if coefficient.log2 + 1 + format.scale ≤ n then .finite negative 0 0
      else format.round negative coefficient (Nat.pow 10 (n + 1))

end DecimalLiteral

namespace FloatValue

variable (format : FloatFormat)

def isInfinityName (text : List Char) : Bool :=
  text.map Char.toLower = "inf".toList || text.map Char.toLower = "infinity".toList

def splitSign : List Char → Bool × List Char
  | '-' :: text => (true, text)
  | '+' :: text => (false, text)
  | text => (false, text)

def parse (text : List Char) : Except FloatError (FloatValue format) :=
  if text.isEmpty then .error .empty
  else
    let (negative, unsigned) := splitSign text
    match DecimalLiteral.ofUnsigned? negative unsigned with
    | some literal => .ok (literal.round format)
    | none =>
      if isInfinityName unsigned then .ok (.infinity negative)
      else if unsigned.map Char.toLower = "nan".toList then .ok (.nan negative)
      else .error .invalid

end FloatValue

end SqlClient
