import SqlClient.Bytes
import SqlClient.Error

namespace SqlClient

/-- The two-way byte stream of a session, with the fate of every write and flush fixed beforehand. -/
structure ByteStream where
  incoming : Bytes
  ending : IoError := .endOfStream
  /-- The fate of the write of each number, counted from zero. -/
  refuses : Nat → Option IoError := fun _ ↦ none
  /-- How much of its piece the write of each number has taken by the time it is refused. -/
  partly : Nat → Nat := fun _ ↦ 0
  refusesFlush : Nat → Option IoError := fun _ ↦ none
  sent : List Bytes := []
  writes : Nat := 0
  flushes : Nat := 0

namespace ByteStream

def refusingAfter (count : Nat) (error : IoError) (call : Nat) : Option IoError :=
  if count ≤ call then some error else none

def written (stream : ByteStream) : Bytes :=
  stream.sent.flatten

/-- The front of a piece that goes out before the next write of it is refused, unless that is
nothing. A write that has taken all of its piece is over, and no longer refused. -/
def torn (piece : Bytes) (stream : ByteStream) : List Bytes :=
  [piece.dropLast.take (stream.partly stream.writes)].filter (!·.isEmpty)

def write (piece : Bytes) (stream : ByteStream) : Except IoError Unit × ByteStream :=
  let counted := { stream with writes := stream.writes + 1 }
  match stream.refuses stream.writes with
  | some error => (.error error, { counted with sent := stream.sent ++ stream.torn piece })
  | none => (.ok (), { counted with sent := stream.sent ++ [piece] })

def writeAll : List Bytes → ByteStream → Except IoError Unit × ByteStream
  | [], stream => (.ok (), stream)
  | piece :: pieces, stream =>
    match stream.write piece with
    | (.error error, stream) => (.error error, stream)
    | (.ok (), stream) => stream.writeAll pieces

def flush (stream : ByteStream) : Except IoError Unit × ByteStream :=
  let counted := { stream with flushes := stream.flushes + 1 }
  match stream.refusesFlush stream.flushes with
  | some error => (.error error, counted)
  | none => (.ok (), counted)

def transmit (pieces : List Bytes) (stream : ByteStream) : Except IoError Unit × ByteStream :=
  match stream.writeAll pieces with
  | (.error error, stream) => (.error error, stream)
  | (.ok (), stream) => stream.flush

end ByteStream

end SqlClient
