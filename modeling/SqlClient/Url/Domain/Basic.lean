import SqlClient.Text.Composition
import SqlClient.Url.Domain.Direction
import SqlClient.Url.Domain.Joiner
import SqlClient.Url.Punycode

namespace SqlClient.Domain

def isForbidden (c : Char) : Bool :=
  c.toNat < 0x20 || c.toNat = 0x7F ||
    [' ', '%', '#', '/', ':', '<', '>', '?', '@', '[', '\\', ']', '^', '|'].contains c

def isAscii (text : List Char) : Bool :=
  text.all (·.toNat < 0x80)

def maxLength : Nat := 1000

def maxCodeLength : Nat := 2000

/-- Reads what follows `xn--` in a label. It has to stand for a label that needs a code and that is
in the form of names already. -/
def decodeLabel? (code : List Char) : Option (List Char) := do
  guard (isAscii code && code.length ≤ maxCodeLength)
  guard (code.getLast?.any (· ≠ '-'))
  let label ← Punycode.decode? code
  guard ((map? label).map Composition.compose = some label)
  return label

def isMark (c : Char) : Bool :=
  Mark.nonspacing.contains c.toNat || Mark.spacing.contains c.toNat

def isLabel (label : List Char) : Bool :=
  !label.head?.any isMark && areJoinersAllowed [] label

def readLabel? (label : List Char) : Option (List Char) := do
  let label ←
    match label with
    | 'x' :: 'n' :: '-' :: '-' :: code => decodeLabel? code
    | label =>
      guard (isAscii label || label.length ≤ maxLength)
      some label
  guard (isLabel label)
  return label

def read? (text : List Char) : Option (List (List Char)) := do
  let name := Composition.compose (← map? text)
  guard !(name.any isForbidden)
  let labels ← (name.splitOn '.').mapM readLabel?
  guard (Direction.areSound labels)
  return labels

end SqlClient.Domain
