import SqlClient.Text.Quoted

namespace SqlClient

structure ServerError where
  code : UInt16
  state : String
  message : String
  deriving DecidableEq, Repr, Inhabited

def ServerError.text (e : ServerError) : String :=
  "ERROR " ++ toString e.code.toNat ++ " (" ++ e.state ++ "): " ++ e.message

inductive IoError
  | endOfStream
  | brokenPipe
  | connectionReset
  | other (text : String)
  deriving DecidableEq, Repr, Inhabited

def IoError.text : IoError → String
  | endOfStream => "failed to fill whole buffer"
  | brokenPipe => "broken pipe"
  | connectionReset => "connection reset by peer"
  | other text => text

inductive IntegerError
  | empty
  | invalidDigit
  | tooLarge
  | tooSmall
  deriving DecidableEq, Repr

def IntegerError.text : IntegerError → String
  | empty => "cannot parse integer from empty string"
  | invalidDigit => "invalid digit found in string"
  | tooLarge => "number too large to fit in target type"
  | tooSmall => "number too small to fit in target type"

inductive FloatError
  | empty
  | invalid
  deriving DecidableEq, Repr

def FloatError.text : FloatError → String
  | empty => "cannot parse float from empty string"
  | invalid => "invalid float literal"

inductive Error
  | server (report : ServerError)
  | io (cause : IoError)
  | badConfig (text : String)
  | invalidPacket
  | unexpectedEof
  | connectionBroken
  | resultSetPending
  | badUsage (text : String)
  | unsupported (text : String)
  | parseInteger (cause : IntegerError)
  | parseFloat (cause : FloatError)
  | floatOutOfRange (literal : String)
  | parseBool (literal : String)
  | invalidUtf8
  | libraryBug (text : String)
  deriving DecidableEq, Repr, Inhabited

namespace Error

def message : Error → String
  | server report => "Server Error: " ++ report.text
  | io cause => "IO error: " ++ cause.text
  | badConfig text => "Bad config error: " ++ text
  | invalidPacket => "Invalid packet"
  | unexpectedEof => "Unexpected end of packet"
  | connectionBroken => "Connection is broken and cannot issue commands"
  | resultSetPending =>
    "A previous result set has not been fully read; call discard_pending() first"
  | badUsage text => "Bad usage error: " ++ text
  | unsupported text => "Unsupported: " ++ text
  | parseInteger cause => "Cannot parse integer: " ++ cause.text
  | parseFloat cause => "Cannot parse float: " ++ cause.text
  | floatOutOfRange literal => "Float out of range: " ++ Quoted.quote literal
  | parseBool literal => "Cannot parse bool from " ++ Quoted.quote literal
  | invalidUtf8 => "Invalid UTF-8: invalid utf-8 sequence"
  | libraryBug text => "Library bug: " ++ text

/-- Whether the connection is of no further use after the error. Reports of the server, wrong calls,
wrong settings and values that cannot be coerced leave the stream of packets in step. -/
def breaksConnection : Error → Bool
  | server _ | badConfig _ | resultSetPending | badUsage _ => false
  | parseInteger _ | parseFloat _ | floatOutOfRange _ | parseBool _ | invalidUtf8 => false
  | io _ | invalidPacket | unexpectedEof | connectionBroken | unsupported _ | libraryBug _ => true

def localInfile : Error :=
  unsupported "LOCAL INFILE queries are not supported"

end Error

end SqlClient
