import SqlClient.Error

namespace SqlClient.Integer

def digit? (c : Char) : Option Nat :=
  if c.isDigit then some (c.toNat - 48) else none

/-- Reads digits behind `value`, up to the first number past `limit`, which is the error
`overflow`. -/
def readDigits (limit : Nat) (overflow : IntegerError) : Nat → List Char → Except IntegerError Nat
  | value, [] => .ok value
  | value, c :: text =>
    match digit? c with
    | none => .error .invalidDigit
    | some d =>
      if limit < value * 10 + d then .error overflow
      else readDigits limit overflow (value * 10 + d) text

def readUnsigned (limit : Nat) : List Char → Except IntegerError Nat
  | [] => .error .empty
  | ['+'] => .error .invalidDigit
  | '+' :: text => readDigits limit .tooLarge 0 text
  | text => readDigits limit .tooLarge 0 text

def readSigned (bits : Nat) : List Char → Except IntegerError Int
  | [] => .error .empty
  | ['-'] => .error .invalidDigit
  | '-' :: text => (readDigits (1 <<< (bits - 1)) .tooSmall 0 text).map fun n ↦ -(n : Int)
  | text => (readUnsigned (1 <<< (bits - 1) - 1) text).map fun n ↦ (n : Int)

end SqlClient.Integer
