import SqlClient.Text.Utf8
import SqlClient.Value.Integer
import SqlClient.Value.Float

namespace SqlClient

/-- Types a column value can be coerced into. The default stands for NULL and for a value that
cannot be coerced. -/
class FromText (α : Type) extends Inhabited α where
  fromText : Bytes → Except Error α

namespace FromText

def text (bytes : Bytes) : Except Error String :=
  match Utf8.decode? bytes with
  | some text => .ok text
  | none => .error .invalidUtf8

def signed (bits : Nat) (bytes : Bytes) : Except Error Int := do
  let text ← text bytes
  (Integer.readSigned bits text.toList).mapError .parseInteger

/-- Only a spelled-out infinity may produce one. -/
def float (format : FloatFormat) (bytes : Bytes) : Except Error (FloatValue format) := do
  let text ← text bytes
  let value ← (FloatValue.parse format text.toList).mapError .parseFloat
  if value.isInfinite ∧ ¬FloatValue.isInfinityName (FloatValue.splitSign text.toList).2 then
    throw (.floatOutOfRange text)
  return value

def bool (bytes : Bytes) : Except Error Bool :=
  if bytes = Utf8.encode "1" ∨ bytes = Utf8.encode "true" then .ok true
  else if bytes = Utf8.encode "0" ∨ bytes = Utf8.encode "false" then .ok false
  else .error (.parseBool (Utf8.decodeLossy bytes))

instance : FromText Bytes := ⟨.ok⟩

instance : FromText String := ⟨text⟩

instance : FromText Int8 := ⟨fun bytes ↦ (signed 8 bytes).map Int8.ofInt⟩

instance : FromText Int16 := ⟨fun bytes ↦ (signed 16 bytes).map Int16.ofInt⟩

instance : FromText Int32 := ⟨fun bytes ↦ (signed 32 bytes).map Int32.ofInt⟩

instance : FromText Int64 := ⟨fun bytes ↦ (signed 64 bytes).map Int64.ofInt⟩

instance {format : FloatFormat} : FromText (FloatValue format) := ⟨float format⟩

instance : FromText Bool := ⟨bool⟩

end FromText

end SqlClient
