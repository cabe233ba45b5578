import SqlClient.Error
import SqlClient.Url.Basic
import SqlClient.Url.Form
import SqlClient.Value.Integer

namespace SqlClient

structure Options where
  tcpNoDelay : Bool := true
  host : Option String := none
  port : UInt16 := 3306
  user : String := ""
  password : Option String := none
  database : Option String := none
  /-- In milliseconds. Without a timeout an operation waits as long as it takes. -/
  readTimeout : Option Nat := none
  writeTimeout : Option Nat := none
  deriving DecidableEq, Repr

namespace Options

def scheme : String := "mysql"

def readBool (key value : String) : Except Error Bool :=
  let lower := value.toList.map Char.toLower
  if value = "1" ∨ lower = "true".toList then .ok true
  else if value = "0" ∨ lower = "false".toList then .ok false
  else .error (.badConfig ("Invalid boolean value '" ++ value ++ "' for '" ++ key ++ "'"))

/-- Zero turns a timeout off. -/
def readTimeoutValue (key value : String) : Except Error (Option Nat) :=
  match Integer.readUnsigned (UInt64.size - 1) value.toList with
  | .ok millis => .ok (if 0 < millis then some millis else none)
  | .error cause =>
    .error (.badConfig
      ("Invalid timeout '" ++ value ++ "' for '" ++ key ++ "': " ++ cause.text))

def setParameter (options : Options) : String × String → Except Error Options
  | ("tcp_nodelay", value) => do
    return { options with tcpNoDelay := ← readBool "tcp_nodelay" value }
  | ("read_timeout", value) => do
    return { options with readTimeout := ← readTimeoutValue "read_timeout" value }
  | ("write_timeout", value) => do
    return { options with writeTimeout := ← readTimeoutValue "write_timeout" value }
  | (key, _) => .error (.badConfig ("Unknown connection parameter '" ++ key ++ "'"))

/-- The options in a URL ahead of its query. The database is the path without the first slash. -/
def ofAddress (url : Url) : Options where
  host := url.host
  port := url.port.getD 3306
  user := url.username
  password := url.password
  database :=
    match url.path.toList with
    | '/' :: c :: name => some (String.ofList (c :: name))
    | _ => none

def ofUrl (text : String) : Except Error Options := do
  let url ← (Url.parse text).mapError fun error ↦
    .badConfig ("Failed to parse MySQL URL: " ++ error.text)
  if url.scheme ≠ scheme then
    throw (.badConfig ("Invalid URL scheme '" ++ url.scheme ++ "', expected 'mysql'"))
  (Form.pairs (url.query.getD "")).foldlM setParameter (ofAddress url)

def endpoint (options : Options) : Except Error (String × UInt16) :=
  match options.host with
  | some host => .ok (host, options.port)
  | none => .error (.badConfig "Missing host in connection options")

end Options

end SqlClient
