import SqlClient.Column

namespace SqlClient

class RowStream (σ : Type) where
  columns : σ → List Column
  next : σ → Except Error (Option Bytes) × σ

structure BufferedRows where
  columns : List Column
  rows : List Bytes := []

namespace BufferedRows

instance : RowStream BufferedRows where
  columns := columns
  next buffered :=
    match buffered.rows with
    | [] => (.ok none, buffered)
    | row :: rows => (.ok (some row), { buffered with rows })

end BufferedRows

/-- A stream under observation: it counts how often it was asked for a row, and may meet a failure
where the underlying stream ends. -/
structure ObservedRows (σ : Type) where
  stream : σ
  failure : Option Error := none
  polls : Nat := 0

namespace ObservedRows

variable {σ : Type} [RowStream σ]

instance : RowStream (ObservedRows σ) where
  columns observed := RowStream.columns observed.stream
  next observed :=
    let (result, stream) := RowStream.next observed.stream
    let observed := { observed with stream, polls := observed.polls + 1 }
    match result, observed.failure with
    | .ok none, some error => (.error error, observed)
    | result, _ => (result, observed)

end ObservedRows

end SqlClient
