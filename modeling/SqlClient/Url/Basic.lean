import SqlClient.Url.Host
import SqlClient.Url.Path

namespace SqlClient

structure Url where
  scheme : String
  /-- User name and password are kept percent-encoded, as is the path. -/
  username : String := ""
  password : Option String := none
  host : Option String := none
  port : Option UInt16 := none
  path : String
  query : Option String := none
  deriving DecidableEq, Repr

namespace Url

def isBlank (c : Char) : Bool :=
  c.toNat ≤ 0x20

def isLineBreak (c : Char) : Bool :=
  c = '\t' || c = '\n' || c = '\r'

/-- Blanks around a URL do not count, nor do line breaks within. -/
def clean (text : List Char) : List Char :=
  let trimmed := ((text.dropWhile isBlank).reverse.dropWhile isBlank).reverse
  trimmed.filter fun c ↦ !isLineBreak c

def scheme? (text : List Char) : Option (String × List Char) :=
  let (scheme, rest) := text.span fun c ↦ c.isAlphanum || ['+', '-', '.'].contains c
  match scheme, rest with
  | first :: _, ':' :: rest =>
    if first.isAlpha then some (String.ofList (scheme.map Char.toLower), rest) else none
  | _, _ => none

inductive Family
  | file
  | web
  | other
  deriving DecidableEq, Repr

def Family.ofScheme (scheme : String) : Family :=
  if scheme = "file" then .file
  else if ["http", "https", "ws", "wss", "ftp"].contains scheme then .web
  else .other

variable (family : Family)

/-- In the schemes of the web a backslash is as good as a slash. -/
def Family.isSlash (c : Char) : Bool :=
  c = '/' || (family ≠ .other && c = '\\')

def Family.endsAuthority (c : Char) : Bool :=
  family.isSlash c || c = '?' || c = '#'

structure Credentials where
  username : List Char := []
  password : List Char := []

def Credentials.isEmpty (credentials : Credentials) : Bool :=
  credentials.username.isEmpty && credentials.password.isEmpty

def Credentials.ofText (text : List Char) : Credentials :=
  let (username, rest) := text.span (· ≠ ':')
  { username := Percent.encode Percent.userinfoSet username
    password := Percent.encode Percent.userinfoSet rest.tail }

def splitAtSign? (text : List Char) : Option (List Char × List Char) :=
  if text.contains '@' then
    let (after, before) := text.reverse.span (· ≠ '@')
    some (before.tail.reverse, after.reverse)
  else none

/-- The credentials in front of a host. An at sign without credentials needs something behind it. -/
def readCredentials (text : List Char) : Except ParseError (Credentials × List Char) :=
  let (authority, rest) := text.span fun c ↦ !family.endsAuthority c
  match splitAtSign? authority with
  | none => .ok ({}, text)
  | some (before, after) =>
    if before.isEmpty ∧ after.isEmpty ∧ ¬rest.isEmpty then .error .emptyHost
    else .ok (.ofText before, after ++ rest)

def splitHost (bracketed : Bool) : List Char → List Char × List Char
  | [] => ([], [])
  | c :: text =>
    if family.endsAuthority c || (c = ':' && !bracketed) then ([], c :: text)
    else
      let bracketed := if c = '[' then true else if c = ']' then false else bracketed
      let (host, rest) := splitHost bracketed text
      (c :: host, rest)

def readHost (text : List Char) : Except ParseError (Host × List Char) := do
  let (host, rest) := splitHost family false text
  if host.isEmpty ∧ (family = .web ∨ rest.head? = some ':') then throw .emptyHost
  match family with
  | .other => return (← Host.verbatim host, rest)
  | _ => return (← Host.domain host, rest)

def readPort (port : Nat) : List Char → Except ParseError (Nat × List Char)
  | [] => .ok (port, [])
  | c :: text =>
    if c.isDigit then
      let port := port * 10 + (c.toNat - 48)
      if 65535 < port then .error .invalidPort else readPort port text
    else if ['/', '\\', '?', '#'].contains c then .ok (port, c :: text)
    else .error .invalidPort

def readPort? (text : List Char) : Except ParseError (Option UInt16 × List Char) :=
  match text with
  | ':' :: c :: text =>
    if c.isDigit then
      (readPort 0 (c :: text)).map fun (port, rest) ↦ (some (UInt16.ofNat port), rest)
    else (readPort 0 (c :: text)).map fun (_, rest) ↦ (none, rest)
  | [':'] => .ok (none, [])
  | text => .ok (none, text)

def splitQuery (text : List Char) : List Char × Option String :=
  let (path, rest) := text.span fun c ↦ c ≠ '?' && c ≠ '#'
  match rest with
  | '?' :: rest => (path, some (String.ofList (rest.takeWhile (· ≠ '#'))))
  | _ => (path, none)

def pathOf (text : List Char) : String :=
  match text with
  | [] => ""
  | '/' :: text => String.ofList (Path.render (Path.resolve text))
  | text => String.ofList (Path.render (Path.resolve text))

def withAuthority (scheme : String) (text : List Char) : Except ParseError Url := do
  let (credentials, text) ← readCredentials family text
  let (host, text) ← readHost family text
  let (port, text) ← readPort? text
  if host.text.isEmpty ∧ ¬credentials.isEmpty then throw .emptyHost
  let (path, query) := splitQuery text
  return {
    scheme, port, query
    username := String.ofList credentials.username
    password := if credentials.password.isEmpty then none
      else some (String.ofList credentials.password)
    host := if host.text.isEmpty then none else some (String.ofList host.text)
    path := pathOf path }

/-- A URL without an authority. Its path may have no slash in front, and then no segments. -/
def withoutAuthority (scheme : String) (text : List Char) : Url :=
  let (path, query) := splitQuery text
  let path :=
    match path with
    | '/' :: _ => pathOf path
    | path => String.ofList (Percent.encode Percent.controls path)
  { scheme, path, query }

/-- Of a file only the host can be wrong, and a drive letter is none. -/
def ofFile (scheme : String) (text : List Char) : Except ParseError Url := do
  match text with
  | a :: b :: text =>
    if Family.file.isSlash a ∧ Family.file.isSlash b then
      let (host, rest) := text.span fun c ↦ !Family.file.endsAuthority c
      if !host.isEmpty && !(host.length = 2 && Path.startsWithDrive host) then
        let _ ← Host.domain host
      let (path, query) := splitQuery rest
      return { scheme, path := pathOf path, query }
    else return withoutAuthority scheme (a :: b :: text)
  | text => return withoutAuthority scheme text

def parse (text : String) : Except ParseError Url :=
  match scheme? (clean text.toList) with
  | none => .error .relativeWithoutBase
  | some (scheme, text) =>
    match Family.ofScheme scheme with
    | .file => ofFile scheme text
    | .web => withAuthority .web scheme (text.dropWhile Family.web.isSlash)
    | .other =>
      match text with
      | '/' :: '/' :: text => withAuthority .other scheme text
      | text => .ok (withoutAuthority scheme text)

end Url

end SqlClient
