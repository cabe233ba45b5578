import SqlClient.Text.Hex

namespace SqlClient

structure CharRow where
  first : Nat
  last : Nat
  step : Nat
  text : List Nat
  deriving Repr

namespace CharRow

def ofText (row : List Char) : CharRow :=
  let (run, text) := row.span (· ≠ '=')
  let (first, run) := run.span (· ≠ '-')
  let (last, step) := run.tail.span (· ≠ '/')
  { first := Hex.ofDigits first
    last := Hex.ofDigits (if last.isEmpty then first else last)
    step := if step.isEmpty then 1 else Hex.ofDigits step.tail
    text := (text.tail.splitOn '+').map Hex.ofDigits }

def get? (row : CharRow) (n : Nat) : Option (List Nat) :=
  if n ≤ row.last ∧ (n - row.first) % row.step = 0 then
    some (row.text.map (· + (n - row.first)))
  else none

end CharRow

abbrev CharTable := List CharRow

namespace CharTable

/-- Reads rows such as `132=69+6a` for one character, `41-5a=61` for a run of them, and
`100-12e/2=101` for every second one of a run, all numbers to base sixteen. Of a run, each character
stands for one as far behind the given one as it is itself behind the first. -/
def ofText (text : String) : CharTable :=
  ((text.toList.splitOnP Char.isWhitespace).filter (!·.isEmpty)).map CharRow.ofText

def get? : CharTable → Nat → Option (List Nat)
  | [], _ => none
  | row :: rows, n => if n < row.first then none else row.get? n <|> get? rows n

end CharTable

end SqlClient
