namespace SqlClient

structure Flag where
  name : String
  index : Nat
  deriving DecidableEq, Repr

/-- A set of flags as one word, of which the `known` flags have a name. -/
structure FlagSet (known : List Flag) where
  bits : Nat
  deriving DecidableEq, Repr, Inhabited

namespace FlagSet

variable {known : List Flag}

def mask (known : List Flag) : Nat :=
  known.foldl (fun word flag ↦ word ||| 1 <<< flag.index) 0

def ofBits (bits : Nat) : FlagSet known :=
  ⟨bits &&& mask known⟩

def ofFlags (flags : List Flag) : FlagSet known :=
  ⟨mask flags⟩

def has (set : FlagSet known) (flag : Flag) : Bool :=
  set.bits.testBit flag.index

def names (set : FlagSet known) : List String :=
  (known.filter set.has).map Flag.name

end FlagSet

namespace Capabilities

def longPassword : Flag := ⟨"CLIENT_LONG_PASSWORD", 0⟩

def longFlag : Flag := ⟨"CLIENT_LONG_FLAG", 2⟩

def protocol41 : Flag := ⟨"CLIENT_PROTOCOL_41", 9⟩

def transactions : Flag := ⟨"CLIENT_TRANSACTIONS", 13⟩

def secureConnection : Flag := ⟨"CLIENT_SECURE_CONNECTION", 15⟩

def pluginAuth : Flag := ⟨"CLIENT_PLUGIN_AUTH", 19⟩

def sessionTrack : Flag := ⟨"CLIENT_SESSION_TRACK", 23⟩

/-- Rows end with an OK packet, and no packet stands between columns and rows. -/
def deprecateEof : Flag := ⟨"CLIENT_DEPRECATE_EOF", 24⟩

end Capabilities

def capabilityFlags : List Flag := [
  Capabilities.longPassword,
  ⟨"CLIENT_FOUND_ROWS", 1⟩,
  Capabilities.longFlag,
  ⟨"CLIENT_CONNECT_WITH_DB", 3⟩,
  ⟨"CLIENT_NO_SCHEMA", 4⟩,
  ⟨"CLIENT_COMPRESS", 5⟩,
  ⟨"CLIENT_ODBC", 6⟩,
  ⟨"CLIENT_LOCAL_FILES", 7⟩,
  ⟨"CLIENT_IGNORE_SPACE", 8⟩,
  Capabilities.protocol41,
  ⟨"CLIENT_INTERACTIVE", 10⟩,
  ⟨"CLIENT_SSL", 11⟩,
  ⟨"CLIENT_IGNORE_SIGPIPE", 12⟩,
  Capabilities.transactions,
  ⟨"CLIENT_RESERVED", 14⟩,
  Capabilities.secureConnection,
  ⟨"CLIENT_MULTI_STATEMENTS", 16⟩,
  ⟨"CLIENT_MULTI_RESULTS", 17⟩,
  ⟨"CLIENT_PS_MULTI_RESULTS", 18⟩,
  Capabilities.pluginAuth,
  ⟨"CLIENT_CONNECT_ATTRS", 20⟩,
  ⟨"CLIENT_PLUGIN_AUTH_LENENC_CLIENT_DATA", 21⟩,
  ⟨"CLIENT_CAN_HANDLE_EXPIRED_PASSWORDS", 22⟩,
  Capabilities.sessionTrack,
  Capabilities.deprecateEof]

abbrev Capabilities := FlagSet capabilityFlags

def Capabilities.default : Capabilities :=
  .ofFlags [Capabilities.longPassword, Capabilities.longFlag, Capabilities.protocol41,
    Capabilities.transactions, Capabilities.secureConnection, Capabilities.pluginAuth]

def Status.moreResults : Flag := ⟨"SERVER_MORE_RESULTS_EXISTS", 3⟩

def statusFlags : List Flag := [
  ⟨"SERVER_STATUS_IN_TRANS", 0⟩,
  ⟨"SERVER_STATUS_AUTOCOMMIT", 1⟩,
  Status.moreResults,
  ⟨"SERVER_STATUS_NO_GOOD_INDEX_USED", 4⟩,
  ⟨"SERVER_STATUS_NO_INDEX_USED", 5⟩,
  ⟨"SERVER_STATUS_CURSOR_EXISTS", 6⟩,
  ⟨"SERVER_STATUS_LAST_ROW_SENT", 7⟩,
  ⟨"SERVER_STATUS_DB_DROPPED", 8⟩,
  ⟨"SERVER_STATUS_NO_BACKSLASH_ESCAPES", 9⟩,
  ⟨"SERVER_STATUS_METADATA_CHANGED", 10⟩,
  ⟨"SERVER_QUERY_WAS_SLOW", 11⟩,
  ⟨"SERVER_PS_OUT_PARAMS", 12⟩,
  ⟨"SERVER_STATUS_IN_TRANS_READONLY", 13⟩,
  ⟨"SERVER_SESSION_STATE_CHANGED", 14⟩]

abbrev Status := FlagSet statusFlags

def columnFlags : List Flag := [
  ⟨"NOT_NULL_FLAG", 0⟩,
  ⟨"PRI_KEY_FLAG", 1⟩,
  ⟨"UNIQUE_KEY_FLAG", 2⟩,
  ⟨"MULTIPLE_KEY_FLAG", 3⟩,
  ⟨"BLOB_FLAG", 4⟩,
  ⟨"UNSIGNED_FLAG", 5⟩,
  ⟨"ZEROFILL_FLAG", 6⟩,
  ⟨"BINARY_FLAG", 7⟩,
  ⟨"ENUM_FLAG", 8⟩,
  ⟨"AUTO_INCREMENT_FLAG", 9⟩,
  ⟨"TIMESTAMP_FLAG", 10⟩,
  ⟨"SET_FLAG", 11⟩,
  ⟨"NO_DEFAULT_VALUE_FLAG", 12⟩,
  ⟨"ON_UPDATE_NOW_FLAG", 13⟩,
  ⟨"PART_KEY_FLAG", 14⟩,
  ⟨"NUM_FLAG", 15⟩]

abbrev ColumnFlags := FlagSet columnFlags

end SqlClient
