namespace SqlClient.Hex

def digit? (c : Char) : Option Nat :=
  if c.isDigit then some (c.toNat - 48)
  else if 'a' ≤ c ∧ c ≤ 'f' then some (c.toNat - 97 + 10)
  else if 'A' ≤ c ∧ c ≤ 'F' then some (c.toNat - 65 + 10)
  else none

def ofDigits (digits : List Char) : Nat :=
  digits.foldl (fun n c ↦ n * 16 + (digit? c).getD 0) 0

end SqlClient.Hex
