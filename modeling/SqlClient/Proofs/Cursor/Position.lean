import SqlClient.Proofs.Cursor.Breaking
import SqlClient.Proofs.Cursor.Operations

namespace SqlClient

class LawfulRowStream (σ : Type) [RowStream σ] : Prop where
  columns_next (stream : σ) :
    RowStream.columns (RowStream.next stream).2 = RowStream.columns stream

instance : LawfulRowStream BufferedRows where
  columns_next buffered := by
    simp only [RowStream.next, RowStream.columns]
    split <;> rfl

instance {σ : Type} [RowStream σ] [LawfulRowStream σ] : LawfulRowStream (ObservedRows σ) where
  columns_next observed := by
    have hcolumns := LawfulRowStream.columns_next observed.stream
    simp only [RowStream.next, RowStream.columns]
    split <;> exact hcolumns

instance {τ : Type} [Transport τ] : LawfulRowStream (ResultSet τ) where
  columns_next resultSet := by
    change resultSet.next.2.columns = resultSet.columns
    cases hfinished : resultSet.finished with
    | true => rw [ResultSet.next, if_pos hfinished]
    | false =>
      obtain ⟨packet, hnext, -⟩ | ⟨status, hnext, -⟩ | ⟨error, hnext, -⟩ :=
        ResultSet.next_cases hfinished rfl
      all_goals exact congrArg (·.2.columns) hnext

def RowStream.row? {σ : Type} [RowStream σ] : Nat → σ → Option Bytes
  | 0, stream =>
    match RowStream.next stream with
    | (.ok row?, _) => row?
    | (.error _, _) => none
  | number + 1, stream =>
    match RowStream.next stream with
    | (.ok (some _), stream) => row? number stream
    | (.ok none, _) | (.error _, _) => none

theorem BufferedRows.row?_eq (columns : List Column) (rows : List Bytes) (number : Nat) :
    RowStream.row? number ({ columns, rows } : BufferedRows) = rows[number]? := by
  induction number generalizing rows with
  | zero => cases rows <;> rfl
  | succ number ih =>
    cases rows with
    | nil => rfl
    | cons row rows => exact ih rows

namespace Cursor

structure Position where
  row : Nat
  /-- The accessors called since the last of them. -/
  column : Nat
  deriving DecidableEq, Repr

def Position.advance (position : Position) (operation : Operation) : Position :=
  match operation with
  | .nextRow => ⟨position.row + 1, 0⟩
  | operation => if operation.isRead then ⟨position.row, position.column + 1⟩ else position

def Position.behind (operations : List Operation) : Position :=
  operations.foldl advance ⟨0, 0⟩

variable {σ : Type}

def Over (cursor : Cursor σ) : Prop :=
  cursor.exhausted = true ∨ cursor.readError.isSome = true

instance (cursor : Cursor σ) : Decidable cursor.Over :=
  inferInstanceAs (Decidable (_ ∨ _))

theorem not_over_iff {cursor : Cursor σ} :
    ¬ cursor.Over ↔ cursor.exhausted = false ∧ cursor.readError = none := by
  simp [Over]

variable [RowStream σ]

theorem not_over_ofStream (stream : σ) : ¬ (ofStream stream).Over := by
  simp [Over, ofStream]

theorem Reads.over_iff {cursor cursor' : Cursor σ} (h : cursor.Reads cursor') :
    cursor'.Over ↔ cursor.Over := by
  rw [Over, Over, h.exhausted_eq, h.readError_eq]

def row? (number : Nat) (cursor : Cursor σ) : Option Bytes :=
  if cursor.Over then none else RowStream.row? number cursor.stream

def unread (cursor : Cursor σ) : List (Option Bytes) :=
  Row.decode (cursor.columns.length - cursor.readColumns) (cursor.packet.drop cursor.offset)

section Read

variable (cursor : Cursor σ)

theorem unread_leaveRow : cursor.leaveRow.unread = [] := by
  have hall : cursor.leaveRow.columns.length - cursor.leaveRow.readColumns = 0 := Nat.sub_self _
  rw [unread, hall, Row.decode]

theorem unread_of_column {column : Column}
    (hcolumn : cursor.columns[cursor.readColumns]? = some column) :
    cursor.unread = match Row.readValue cursor.packet cursor.offset with
      | .ok (span, next) => span.map (fun span ↦ slice cursor.packet span.start span.stop) ::
        Row.decode (cursor.columns.length - (cursor.readColumns + 1)) (cursor.packet.drop next)
      | .error _ => [] := by
  obtain ⟨hlt, -⟩ := List.getElem?_eq_some_iff.mp hcolumn
  have hleft : cursor.columns.length - cursor.readColumns =
      cursor.columns.length - (cursor.readColumns + 1) + 1 := by omega
  rw [unread, hleft]
  exact Row.decode_drop cursor.packet cursor.offset _

/-- An accessor takes the next value and leaves the others. -/
theorem readNext_unread :
    cursor.readNext.1.map (fun span ↦ slice cursor.packet span.start span.stop) =
        cursor.unread.head?.join ∧
      cursor.readNext.2.unread = cursor.unread.tail := by
  cases hcolumn : cursor.columns[cursor.readColumns]? with
  | none =>
    have hread : cursor.columns.length ≤ cursor.readColumns := List.getElem?_eq_none_iff.mp hcolumn
    have hunread : cursor.unread = [] := by
      rw [unread, Nat.sub_eq_zero_of_le hread, Row.decode]
    rw [readNext_of_none hcolumn, hunread]
    exact ⟨rfl, rfl⟩
  | some column =>
    rw [cursor.unread_of_column hcolumn]
    cases hvalue : Row.readValue cursor.packet cursor.offset with
    | error error =>
      rw [readNext_of_error hcolumn hvalue]
      exact ⟨rfl, unread_leaveRow _⟩
    | ok taken =>
      obtain ⟨span, next⟩ := taken
      rw [readNext_of_ok hcolumn hvalue]
      exact ⟨rfl, rfl⟩

/-- No accessor looks outside the row. -/
theorem span_of_readNext {span : Row.Span} (h : cursor.readNext.1 = some span) :
    span.start ≤ span.stop ∧ span.stop ≤ cursor.packet.length := by
  cases hcolumn : cursor.columns[cursor.readColumns]? with
  | none =>
    rw [readNext_of_none hcolumn] at h
    cases h
  | some column =>
    cases hvalue : Row.readValue cursor.packet cursor.offset with
    | error error =>
      rw [readNext_of_error hcolumn hvalue] at h
      cases h
    | ok taken =>
      obtain ⟨span', next⟩ := taken
      rw [readNext_of_ok hcolumn hvalue] at h
      cases h
      exact Row.span_of_readValue hvalue

theorem nullBytes_unread : cursor.nullBytes.1 = asBytes cursor.unread.head?.join := by
  rw [nullBytes_apply, cursor.readNext_unread.1]

def coerced (α : Type) [FromText α] : Option Bytes → α × Bool
  | none => (default, true)
  | some data =>
    match (FromText.fromText data : Except Error α) with
    | .ok value => (value, false)
    | .error _ => (default, false)

theorem nullValue_unread (α : Type) [FromText α] :
    (cursor.nullValue α).1 = coerced α cursor.unread.head?.join := by
  rw [nullValue_apply, cursor.readNext_unread.1]
  cases cursor.unread.head?.join with
  | none => rfl
  | some data =>
    unfold coerced
    dsimp only
    cases (FromText.fromText data : Except Error α) <;> rfl

theorem Reads.unread_eq {cursor cursor' : Cursor σ} (h : cursor.Reads cursor') :
    cursor'.unread = cursor.unread.tail := by
  obtain ⟨valueError, rfl⟩ := h.eq_readNext
  exact cursor.readNext_unread.2

end Read

section Runs

variable {motive : Position → Cursor σ → Prop}
  (next : ∀ {position cursor}, motive position cursor →
    motive ⟨position.row + 1, 0⟩ cursor.nextRow.2)
  (read : ∀ {position cursor cursor'}, motive position cursor → cursor.Reads cursor' →
    motive ⟨position.row, position.column + 1⟩ cursor')
  (position : Position) {cursor : Cursor σ}

include next read

theorem perform_induction (h : motive position cursor) (operation : Operation) :
    motive (position.advance operation) (cursor.perform operation).2 := by
  cases operation with
  | nextRow => exact next h
  | nullBytes => exact read h (.nullBytes cursor)
  | bytes => exact read h (.bytes cursor)
  | nullValue α => exact read h (.nullValue α cursor)
  | value α => exact read h (.value α cursor)
  | decoded | columns | isExhausted | lastError => exact h

/-- What calls for a row and accessors preserve holds wherever operations lead. -/
theorem after_induction (h : motive position cursor) (operations : List Operation) :
    motive (operations.foldl Position.advance position) (cursor.after operations) := by
  induction operations generalizing position cursor with
  | nil => exact h
  | cons operation operations ih => exact ih _ (perform_induction next read _ h operation)

end Runs

section NextRow

/-- A call for a row does nothing any more, or asks the stream for its next one. -/
theorem nextRow_cases (cursor : Cursor σ) :
    (cursor.Over ∧ cursor.nextRow = (false, cursor)) ∨
    ¬ cursor.Over ∧
      ((∃ packet stream, RowStream.next cursor.stream = (.ok (some packet), stream) ∧
        cursor.nextRow = (true, { cursor with
          stream, packet, offset := 0, readColumns := 0, row := cursor.row + 1 })) ∨
      (∃ stream, RowStream.next cursor.stream = (.ok none, stream) ∧
        cursor.nextRow = (false, { cursor with stream, exhausted := true }.leaveRow)) ∨
      ∃ error stream, RowStream.next cursor.stream = (.error error, stream) ∧
        cursor.nextRow = (false, { cursor with stream, readError := some error }.leaveRow)) := by
  by_cases hover : cursor.Over
  · exact .inl ⟨hover, nextRow_of_over hover⟩
  obtain ⟨hreading, hunbroken⟩ := not_over_iff.mp hover
  refine .inr ⟨hover, ?_⟩
  rcases hnext : RowStream.next cursor.stream with ⟨error | (_ | packet), stream⟩
  · exact .inr (.inr ⟨error, stream, rfl, nextRow_of_error hreading hunbroken hnext⟩)
  · exact .inr (.inl ⟨stream, rfl, nextRow_of_none hreading hunbroken hnext⟩)
  · exact .inl ⟨packet, stream, rfl, nextRow_of_some hreading hunbroken hnext⟩

variable [LawfulRowStream σ]

theorem columns_nextRow (cursor : Cursor σ) : cursor.nextRow.2.columns = cursor.columns := by
  have hnext := LawfulRowStream.columns_next cursor.stream
  unfold nextRow
  split
  · rfl
  · dsimp only
    split <;> exact hnext

theorem nextRow_row? (cursor : Cursor σ) (hleft : cursor.Over → cursor.unread = []) :
    cursor.nextRow.1 = (cursor.row? 0).isSome ∧
      (∀ number, cursor.nextRow.2.row? number = cursor.row? (number + 1)) ∧
      cursor.nextRow.2.unread = (cursor.row? 0).elim [] (Row.decode cursor.columns.length) ∧
      (cursor.nextRow.2.Over → cursor.nextRow.2.unread = []) := by
  have hcolumns := cursor.columns_nextRow
  obtain ⟨hover, hcall⟩ | ⟨hover, hasked⟩ := cursor.nextRow_cases
  -- A cursor that is over stays as it is, and there is nothing left of its row.
  · have hnone (number : Nat) : cursor.row? number = none := if_pos hover
    rw [hcall, hnone]
    exact ⟨rfl, fun number ↦ (hnone number).trans (hnone (number + 1)).symm, hleft hover, hleft⟩
  have hcoming (number : Nat) : cursor.row? number = RowStream.row? number cursor.stream :=
    if_neg hover
  rw [hcoming]
  simp only [hcoming, RowStream.row?]
  obtain ⟨packet, stream, hnext, hcall⟩ | ⟨stream, hnext, hcall⟩ | ⟨error, stream, hnext, hcall⟩ :=
    hasked
  · rw [hnext]
    rw [hcall] at hcolumns ⊢
    refine ⟨rfl, fun number ↦ if_neg hover, ?_, fun hover' ↦ absurd hover' hover⟩
    rw [unread, hcolumns]
    rfl
  · rw [hnext, hcall]
    have hleave := unread_leaveRow { cursor with stream, exhausted := true }
    exact ⟨rfl, fun number ↦ if_pos (.inl rfl), hleave, fun _ ↦ hleave⟩
  · rw [hnext, hcall]
    have hleave := unread_leaveRow { cursor with stream, readError := some error }
    exact ⟨rfl, fun number ↦ if_pos (.inr rfl), hleave, fun _ ↦ hleave⟩

end NextRow

def entered (stream : σ) : Nat → List (Option Bytes)
  | 0 => []
  | row + 1 => (RowStream.row? row stream).elim [] (Row.decode (RowStream.columns stream).length)

structure At (stream : σ) (position : Position) (cursor : Cursor σ) : Prop where
  columns_eq : cursor.columns = RowStream.columns stream
  row?_eq (number : Nat) : cursor.row? number = RowStream.row? (position.row + number) stream
  unread_eq : cursor.unread = (entered stream position.row).drop position.column
  unread_of_over : cursor.Over → cursor.unread = []

variable {stream : σ} {position : Position} {cursor cursor' : Cursor σ}

theorem At.ofStream (stream : σ) : At stream ⟨0, 0⟩ (.ofStream stream) where
  columns_eq := rfl
  row?_eq number := by
    rw [Nat.zero_add]
    exact if_neg (not_over_ofStream stream)
  unread_eq := (Cursor.ofStream stream).unread_leaveRow
  unread_of_over _ := (Cursor.ofStream stream).unread_leaveRow

theorem At.nextRow [LawfulRowStream σ] (h : At stream position cursor) :
    At stream ⟨position.row + 1, 0⟩ cursor.nextRow.2 := by
  obtain ⟨-, hcoming, hunread, hover⟩ := cursor.nextRow_row? h.unread_of_over
  refine ⟨cursor.columns_nextRow.trans h.columns_eq, fun number ↦ ?_, ?_, hover⟩
  · rw [hcoming, h.row?_eq, Nat.add_right_comm, Nat.add_assoc]
  · rw [hunread, h.row?_eq, h.columns_eq]
    rfl

theorem At.read (h : At stream position cursor) (hread : cursor.Reads cursor') :
    At stream ⟨position.row, position.column + 1⟩ cursor' := by
  have hunread := hread.unread_eq
  refine ⟨?_, fun number ↦ ?_, ?_, fun hover' ↦ ?_⟩
  · rw [columns, hread.stream_eq]
    exact h.columns_eq
  · rw [← h.row?_eq number, row?, row?, hread.stream_eq]
    simp only [hread.over_iff]
  · rw [hunread, h.unread_eq, List.tail_drop]
  · rw [hunread, h.unread_of_over (hread.over_iff.mp hover')]
    rfl

theorem At.perform [LawfulRowStream σ] (h : At stream position cursor) (operation : Operation) :
    At stream (position.advance operation) (cursor.perform operation).2 :=
  perform_induction At.nextRow At.read _ h operation

/-- Whatever has been called, the position tells what is left of the row. -/
theorem At.after [LawfulRowStream σ] (h : At stream position cursor) (operations : List Operation) :
    At stream (operations.foldl Position.advance position) (cursor.after operations) :=
  after_induction At.nextRow At.read _ h operations

/-- Over any stream, also one that fails: an accessor answers with the value at its position. -/
theorem At.answers [LawfulRowStream σ] (h : At stream position cursor) :
    let value := (entered stream position.row)[position.column]?.join
    cursor.nextRow.1 = (RowStream.row? position.row stream).isSome ∧
      cursor.nullBytes.1 = asBytes value ∧
      ∀ (α : Type) [FromText α], (cursor.nullValue α).1 = coerced α value := by
  intro value
  have hunread : cursor.unread.head?.join = value := by rw [h.unread_eq, List.head?_drop]
  refine ⟨?_, ?_, fun α _ ↦ ?_⟩
  · obtain ⟨hnext, -⟩ := cursor.nextRow_row? h.unread_of_over
    rw [hnext, h.row?_eq, Nat.add_zero]
  · rw [nullBytes_unread, hunread]
  · rw [nullValue_unread, hunread]

/-- The value at a position among the rows, left-to-right decoding taken: `none` for NULL, and where
there is no value to read. -/
def valueAt (count : Nat) (rows : List Bytes) : Position → Option Bytes
  | ⟨0, _⟩ => none
  | ⟨row + 1, column⟩ => do (Row.decode count (← rows[row]?))[column]?.join

theorem getElem?_entered (columns : List Column) (rows : List Bytes) (position : Position) :
    (entered ({ columns, rows } : BufferedRows) position.row)[position.column]?.join =
      valueAt columns.length rows position := by
  obtain ⟨_ | row, column⟩ := position
  · rfl
  rw [entered, BufferedRows.row?_eq, valueAt]
  cases rows[row]? with
  | none => rfl
  | some packet => rfl

/-- Every accessor answers with the value at its position, and looks for it within the row. -/
theorem answers_by_position (columns : List Column) (rows : List Bytes)
    (operations : List Operation) :
    let position := Position.behind operations
    let cursor := (Cursor.ofStream ({ columns, rows } : BufferedRows)).after operations
    let value := valueAt columns.length rows position
    (cursor.nextRow.1 = true ↔ position.row < rows.length) ∧
      cursor.nullBytes.1 = asBytes value ∧
      (∀ (α : Type) [FromText α], (cursor.nullValue α).1 = coerced α value) ∧
      ∀ span, cursor.readNext.1 = some span →
        span.start ≤ span.stop ∧ span.stop ≤ cursor.packet.length := by
  intro position cursor value
  have hat : At { columns, rows } position cursor := (At.ofStream _).after operations
  obtain ⟨hnext, hbytes, hvalue⟩ := hat.answers
  simp only [getElem?_entered] at hbytes hvalue
  refine ⟨?_, hbytes, hvalue, fun span hspan ↦ cursor.span_of_readNext hspan⟩
  rw [hnext, BufferedRows.row?_eq]
  exact .of_eq (isSome_getElem? rows position.row)

end Cursor

end SqlClient
