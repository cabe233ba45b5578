import SqlClient.Row
import SqlClient.RowStream
import SqlClient.Value.FromText

namespace SqlClient

structure Sighting where
  row : Nat
  span : Row.Span
  isNull : Bool
  deriving DecidableEq, Repr

structure Cursor (σ : Type) where
  stream : σ
  packet : Bytes
  offset : Nat
  /-- How many columns of the row are read; all of them when no row can be read from. -/
  readColumns : Nat
  /-- Goes up whenever the cursor enters or leaves a row. -/
  row : Nat
  exhausted : Bool
  readError : Option Error
  valueError : Option Error
  /-- The last sighting under each column name. They survive their row, whose number tells them
  from those of the current one. -/
  sightings : List (String × Sighting)

namespace Cursor

variable {σ : Type} [RowStream σ]

def columns (cursor : Cursor σ) : List Column :=
  RowStream.columns cursor.stream

def ofStream (stream : σ) : Cursor σ where
  stream
  packet := []
  offset := 0
  readColumns := (RowStream.columns stream).length
  row := 0
  exhausted := false
  readError := none
  valueError := none
  sightings := []

def leaveRow (cursor : Cursor σ) : Cursor σ :=
  { cursor with readColumns := cursor.columns.length, row := cursor.row + 1 }

/-- Moves to the next row, if there is one. The end of the rows and a failure to read them are both
final. -/
def nextRow (cursor : Cursor σ) : Bool × Cursor σ :=
  if cursor.exhausted ∨ cursor.readError.isSome then (false, cursor)
  else
    let (result, stream) := RowStream.next cursor.stream
    let cursor := { cursor with stream }
    match result with
    | .ok (some packet) =>
      (true, { cursor with packet, offset := 0, readColumns := 0, row := cursor.row + 1 })
    | .ok none => (false, { cursor with exhausted := true }.leaveRow)
    | .error error => (false, { cursor with readError := some error }.leaveRow)

def note (name : String) (sighting : Sighting) (sightings : List (String × Sighting)) :
    List (String × Sighting) :=
  (name, sighting) :: sightings.filter (·.1 ≠ name)

/-- Where the value of the next column lies, `none` for NULL. The rest of a row is lost behind a
value that cannot be located. -/
def readNext (cursor : Cursor σ) : Option Row.Span × Cursor σ :=
  match cursor.columns[cursor.readColumns]? with
  | none => (none, cursor)
  | some column =>
    match Row.readValue cursor.packet cursor.offset with
    | .error error =>
      (none, { cursor with valueError := some error, readColumns := cursor.columns.length })
    | .ok (span, offset) =>
      let sighting := ⟨cursor.row, span.getD ⟨offset, offset⟩, span.isNone⟩
      (span, { cursor with
        offset
        readColumns := cursor.readColumns + 1
        sightings := note column.name sighting cursor.sightings })

def nullBytes (cursor : Cursor σ) : (Bytes × Bool) × Cursor σ :=
  match cursor.readNext with
  | (none, cursor) => (([], true), cursor)
  | (some span, cursor) => ((slice cursor.packet span.start span.stop, false), cursor)

def bytes (cursor : Cursor σ) : Bytes × Cursor σ :=
  let ((bytes, _), cursor) := cursor.nullBytes
  (bytes, cursor)

variable (α : Type) [FromText α]

/-- The next value as an `α`, and whether it is NULL. A value that cannot be coerced is the default
of `α`, and its error is remembered. -/
def nullValue (cursor : Cursor σ) : (α × Bool) × Cursor σ :=
  match cursor.readNext with
  | (none, cursor) => ((default, true), cursor)
  | (some span, cursor) =>
    match (FromText.fromText (slice cursor.packet span.start span.stop) : Except Error α) with
    | .ok value => ((value, false), cursor)
    | .error error => ((default, false), { cursor with valueError := some error })

def value (cursor : Cursor σ) : α × Cursor σ :=
  let ((value, _), cursor) := cursor.nullValue α
  (value, cursor)

def decoded (cursor : Cursor σ) (name : String) : Option (Bytes × Bool) := do
  let sighting ← cursor.sightings.lookup name
  guard (sighting.row = cursor.row)
  guard (sighting.span.start ≤ sighting.span.stop ∧ sighting.span.stop ≤ cursor.packet.length)
  return (slice cursor.packet sighting.span.start sighting.span.stop, sighting.isNull)

def lastError (cursor : Cursor σ) : Option Error :=
  cursor.readError <|> cursor.valueError

def intoError (cursor : Cursor σ) : Option Error :=
  match cursor.readError with
  | some error => some error
  | none => cursor.valueError

end Cursor

end SqlClient
