namespace SqlClient.Punycode

def digit? (c : Char) : Option Nat :=
  if 'a' ≤ c ∧ c ≤ 'z' then some (c.toNat - 97)
  else if c.isDigit then some (c.toNat - 48 + 26)
  else none

/-- A digit below the threshold of its position is the last of its number. -/
def threshold (bias position : Nat) : Nat :=
  if position ≤ bias then 1 else if bias + 26 ≤ position then 26 else position - bias

def limit : Nat := UInt32.size

def readNumber (bias position weight value : Nat) : List Char → Option (Nat × List Char)
  | [] => none
  | c :: code => do
    let d ← digit? c
    let value := value + d * weight
    guard (value < limit)
    let t := threshold bias position
    if d < t then return (value, code)
    else
      let weight := weight * (36 - t)
      guard (weight < limit)
      readNumber bias (position + 36) weight value code

theorem length_readNumber {bias position weight value read : Nat} {code rest : List Char}
    (h : readNumber bias position weight value code = some (read, rest)) :
    rest.length < code.length := by
  induction code generalizing position weight value with
  | nil => cases h
  | cons c code ih =>
    obtain ⟨d, -, hdigit⟩ := Option.bind_eq_some_iff.mp h
    obtain ⟨-, -, hvalue⟩ := Option.bind_eq_some_iff.mp hdigit
    by_cases hlast : d < threshold bias position
    · have hread := (if_pos hlast).symm.trans hvalue
      obtain ⟨-, rfl⟩ := Prod.mk.inj (Option.some.inj hread)
      exact Nat.lt_succ_self _
    · have hread := (if_neg hlast).symm.trans hvalue
      obtain ⟨-, -, hweight⟩ := Option.bind_eq_some_iff.mp hread
      exact Nat.lt_succ_of_lt (ih hweight)

def damp (delta bias : Nat) : Nat :=
  if 455 < delta then damp (delta / 35) (bias + 36) else bias + 36 * delta / (delta + 38)
termination_by delta
decreasing_by exact Nat.div_lt_self (by omega) (by decide)

def adapt (delta length : Nat) (isFirst : Bool) : Nat :=
  let delta := if isFirst then delta / 700 else delta / 2
  damp (delta + delta / length) 0

/-- Puts characters into `text`. The next one is at least `point`, and if it is that one, its place
is not before `place`. -/
def insertAll (text : List Char) (point place bias : Nat) (code : List Char) :
    Option (List Char) :=
  if code.isEmpty then some text
  else
    match _h : readNumber bias 36 1 place code with
    | none => none
    | some (value, rest) =>
      let places := text.length + 1
      let point := point + value / places
      if point.isValidChar then
        insertAll (text.insertIdx (value % places) (Char.ofNat point)) point (value % places + 1)
          (adapt (value - place) places (place = 0)) rest
      else none
termination_by code.length
decreasing_by exact length_readNumber _h

/-- The text that a code of small letters, figures and hyphens stands for. The characters of ASCII
come first; each other one follows behind the last hyphen as a number, which tells how far it lies
behind the one before it, counted over all places of the text where a character could be put. -/
def decode? (code : List Char) : Option (List Char) :=
  let (digits, ascii) := code.reverse.span (· ≠ '-')
  match ascii with
  | ['-'] => none
  | ascii => insertAll ascii.tail.reverse 0x80 0 72 digits.reverse

end SqlClient.Punycode
