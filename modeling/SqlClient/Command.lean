import SqlClient.Encoder

namespace SqlClient

inductive CommandCode
  | quit
  | initDb
  | query
  | ping
  | resetConnection
  deriving DecidableEq, Repr

def CommandCode.byte : CommandCode → UInt8
  | quit => 0x01
  | initDb => 0x02
  | query => 0x03
  | ping => 0x0E
  | resetConnection => 0x1F

inductive Command
  | quit
  | ping
  | query (sql : String)
  deriving DecidableEq, Repr

def Command.encode : Command → Bytes
  | quit => [CommandCode.quit.byte]
  | ping => [CommandCode.ping.byte]
  | query sql => CommandCode.query.byte :: Utf8.encode sql

end SqlClient
