import SqlClient.Url.Domain.Basic
import SqlClient.Url.Ipv6
import SqlClient.Url.Percent

namespace SqlClient

namespace Url

inductive ParseError
  | emptyHost
  | invalidInternationalName
  | invalidPort
  | invalidIpv4
  | invalidIpv6
  | invalidDomainCharacter
  | relativeWithoutBase
  deriving DecidableEq, Repr

def ParseError.text : ParseError → String
  | emptyHost => "empty host"
  | invalidInternationalName => "invalid international domain name"
  | invalidPort => "invalid port number"
  | invalidIpv4 => "invalid IPv4 address"
  | invalidIpv6 => "invalid IPv6 address"
  | invalidDomainCharacter => "invalid domain character"
  | relativeWithoutBase => "relative URL without a base"

structure Host where
  text : List Char
  deriving DecidableEq, Repr

namespace Host

def isForbidden (c : Char) : Bool :=
  ['\x00', '\t', '\n', '\r', ' ', '#', '/', ':', '<', '>', '?', '@', '[', '\\', ']', '^',
    '|'].contains c

def ofBrackets (inner : List Char) : Except ParseError Host :=
  if inner.getLast? = some ']' then
    match Ipv6.parse? inner.dropLast with
    | some groups => .ok ⟨'[' :: Ipv6.render groups ++ [']']⟩
    | none => .error .invalidIpv6
  else .error .invalidIpv6

def verbatim (text : List Char) : Except ParseError Host :=
  match text with
  | '[' :: inner => ofBrackets inner
  | text =>
    if text.any isForbidden then .error .invalidDomainCharacter
    else .ok ⟨Percent.encode Percent.controls text⟩

/-- A part of an IPv4 address: decimal, octal behind a zero, hexadecimal behind `0x`. -/
def ipv4Number? (text : List Char) : Option Nat :=
  let ofDigits (base : Nat) (digits : List Char) : Option Nat :=
    digits.foldlM (fun n c ↦ do
      let d ← Hex.digit? c
      guard (d < base)
      return n * base + d) 0
  match text with
  | [] => none
  | '0' :: 'x' :: digits | '0' :: 'X' :: digits => ofDigits 16 digits
  | '0' :: c :: digits => ofDigits 8 (c :: digits)
  | digits => ofDigits 10 digits

def counted (labels : List (List Char)) : List (List Char) :=
  if labels.getLast? = some [] then labels.dropLast else labels

def endsInNumber (labels : List (List Char)) : Bool :=
  match (counted labels).getLast? with
  | none | some [] => false
  | some last => last.all Char.isDigit || (ipv4Number? last).isSome

/-- All parts but the last stand for one byte each, the last for the bytes that are left. -/
def isIpv4 (labels : List (List Char)) : Bool :=
  match (counted labels).mapM ipv4Number? with
  | none => false
  | some numbers =>
    numbers.length ≤ 4 && numbers.dropLast.all (· ≤ 255) &&
      (numbers.getLast?.getD 0) < Nat.pow 256 (5 - numbers.length)

def domain (text : List Char) : Except ParseError Host :=
  match text with
  | '[' :: inner => ofBrackets inner
  | text =>
    let bytes := Percent.decode (Utf8.encode (String.ofList text))
    match Domain.read? (Utf8.decodeLossy bytes).toList with
    | none => .error .invalidInternationalName
    | some labels =>
      let name := (labels.intersperse ['.']).flatten
      if name = [] then .error .emptyHost
      else if endsInNumber labels ∧ ¬isIpv4 labels then .error .invalidIpv4
      else .ok ⟨name⟩

end Host

end Url

end SqlClient
