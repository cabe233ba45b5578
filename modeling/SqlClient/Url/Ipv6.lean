import SqlClient.Text.Hex

namespace SqlClient.Ipv6

def octet? (text : List Char) : Option Nat :=
  let value := text.foldl (fun n c ↦ n * 10 + (c.toNat - 48)) 0
  if text ≠ [] ∧ text.all Char.isDigit ∧ (text.head? = some '0' → text = ['0']) ∧ value < 256 then
    some value
  else none

/-- The last two groups may be written as an IPv4 address. -/
def embedded? (text : List Char) : Option (List Nat) :=
  match (text.splitOn '.').mapM octet? with
  | some [a, b, c, d] => some [a * 256 + b, c * 256 + d]
  | _ => none

structure Groups where
  groups : List Nat := []
  gap : Option Nat := none

/-- Reads groups behind those in `seen`. A colon at the start of `text` is the second one of a gap,
which itself counts as a group. -/
def readGroups (seen : Groups) (text : List Char) : Option Groups :=
  match text with
  | [] => some seen
  | c :: rest =>
    if seen.groups.length = 8 then none
    else if c = ':' then
      if seen.gap.isSome then none
      else readGroups ⟨seen.groups ++ [0], some (seen.groups.length + 1)⟩ rest
    else
      let digits := ((c :: rest).take 4).takeWhile fun c ↦ (Hex.digit? c).isSome
      let next := { seen with groups := seen.groups ++ [Hex.ofDigits digits] }
      match _h : (c :: rest).drop digits.length with
      | [] => some next
      | '.' :: _ =>
        if digits = [] ∨ 6 < seen.groups.length then none
        else (embedded? (c :: rest)).map fun last ↦ { seen with groups := seen.groups ++ last }
      | ':' :: rest => if rest = [] then none else readGroups next rest
      | _ => none
termination_by text.length
decreasing_by
  · exact Nat.lt_succ_self _
  · have := congrArg List.length _h
    simp only [List.length_drop, List.length_cons] at this
    simp only [List.length_cons]
    omega

def Groups.fill? (read : Groups) : Option (List Nat) :=
  match read.gap with
  | none => if read.groups.length = 8 then some read.groups else none
  | some gap =>
    some (read.groups.take gap ++ List.replicate (8 - read.groups.length) 0 ++
      read.groups.drop gap)

def parse? (text : List Char) : Option (List Nat) :=
  let read :=
    match text with
    | ':' :: ':' :: rest => readGroups ⟨[0], some 1⟩ rest
    | ':' :: _ => none
    | [] | [_] => none
    | text => readGroups {} text
  read.bind Groups.fill?

def zeros (groups : List Nat) : Nat :=
  (groups.takeWhile (· = 0)).length

def longestZeros (groups : List Nat) : Nat × Nat :=
  (List.range groups.length).foldl
    (fun best start ↦
      let length := zeros (groups.drop start)
      if best.2 < length then (start, length) else best)
    (0, 0)

def renderGroups (groups : List Nat) : List Char :=
  (groups.map (Nat.toDigits 16)).intersperse [':'] |>.flatten

/-- Two colons stand for the longest run of zeros, unless that is a single one. -/
def render (groups : List Nat) : List Char :=
  let (start, length) := longestZeros groups
  if length < 2 then renderGroups groups
  else renderGroups (groups.take start) ++ [':', ':'] ++ renderGroups (groups.drop (start + length))

end SqlClient.Ipv6
