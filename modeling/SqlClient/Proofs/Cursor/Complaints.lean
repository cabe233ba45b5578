import SqlClient.Proofs.Cursor.Position

namespace SqlClient

def RowStream.failure? {σ : Type} [RowStream σ] : Nat → σ → Option Error
  | 0, _ => none
  | calls + 1, stream =>
    match RowStream.next stream with
    | (.ok (some _), stream) => failure? calls stream
    | (.ok none, _) => none
    | (.error error, _) => some error

namespace Cursor

def Operation.refusal? : Operation → Bytes → Option Error
  | @nullValue α _, data | @value α _, data =>
    match (FromText.fromText data : Except Error α) with
    | .ok _ => none
    | .error error => some error
  | nextRow, _ | nullBytes, _ | bytes, _ | decoded _, _ | columns, _ | isExhausted, _
  | lastError, _ => none

def Operation.complaint? (operation : Operation) : Except Error (Option Bytes) → Option Error
  | .ok (some data) => operation.refusal? data
  | .ok none => none
  | .error error => if operation.isRead then some error else none

section Found

variable {σ : Type} [RowStream σ]

/-- What there is to find in the row that so many calls have led to. -/
def offered (stream : σ) : Nat → List (Except Error (Option Bytes))
  | 0 => []
  | row + 1 =>
    (RowStream.row? row stream).elim [] (Row.outcomes (RowStream.columns stream).length)

/-- What the operations complain of from the position on, in the order of the calls. Nothing is
found off the rows, past the last column, and behind a value that cannot be decoded. -/
def complaints (stream : σ) : Position → List Operation → List Error
  | _, [] => []
  | position, operation :: operations =>
    ((offered stream position.row)[position.column]?.bind operation.complaint?).toList ++
      complaints stream (position.advance operation) operations

theorem exists_of_mem_complaints {stream : σ} {position : Position} {operations : List Operation}
    {error : Error} (h : error ∈ complaints stream position operations) :
    ∃ operation ∈ operations, ∃ row, ∃ found ∈ offered stream row,
      operation.complaint? found = some error := by
  induction operations generalizing position with
  | nil => cases h
  | cons operation operations ih =>
    obtain hfirst | hrest := List.mem_append.mp h
    · obtain ⟨found, hfound, hcomplaint⟩ := Option.bind_eq_some_iff.mp (Option.mem_toList.mp hfirst)
      exact ⟨operation, List.mem_cons_self .., position.row, found,
        List.mem_of_getElem? hfound, hcomplaint⟩
    · obtain ⟨operation', hmem, hcomplaint⟩ := ih hrest
      exact ⟨operation', .tail operation hmem, hcomplaint⟩

theorem complaint_cases {stream : σ} {position : Position} {operations : List Operation}
    {error : Error} (h : error ∈ complaints stream position operations) :
    Response.FromPacket error ∨
      ∃ operation ∈ operations, ∃ data, operation.refusal? data = some error := by
  obtain ⟨operation, hmem, row, found, hfound, hcomplaint⟩ := exists_of_mem_complaints h
  rcases found with failure | (_ | data)
  · left
    have herror : failure = error := by
      simp only [Operation.complaint?] at hcomplaint
      split at hcomplaint <;> cases hcomplaint
      rfl
    subst herror
    cases row with
    | zero => cases hfound
    | succ row =>
      rw [offered] at hfound
      cases hrow : RowStream.row? row stream with
      | none =>
        rw [hrow] at hfound
        cases hfound
      | some packet =>
        rw [hrow] at hfound
        exact Row.fromPacket_of_mem_outcomes hfound
  · cases hcomplaint
  · exact .inr ⟨operation, hmem, data, hcomplaint⟩

end Found

section Ahead

variable {σ : Type} [RowStream σ] (cursor : Cursor σ)

def ahead : List (Except Error (Option Bytes)) :=
  Row.outcomes (cursor.columns.length - cursor.readColumns) (cursor.packet.drop cursor.offset)

theorem ahead_leaveRow : cursor.leaveRow.ahead = [] := by
  have hall : cursor.leaveRow.columns.length - cursor.leaveRow.readColumns = 0 := Nat.sub_self _
  rw [ahead, hall, Row.outcomes]

theorem ahead_of_column {column : Column}
    (hcolumn : cursor.columns[cursor.readColumns]? = some column) :
    cursor.ahead = match Row.readValue cursor.packet cursor.offset with
      | .ok (span, next) => .ok (span.map fun span ↦ slice cursor.packet span.start span.stop) ::
        Row.outcomes (cursor.columns.length - (cursor.readColumns + 1)) (cursor.packet.drop next)
      | .error error => [.error error] := by
  obtain ⟨hlt, -⟩ := List.getElem?_eq_some_iff.mp hcolumn
  have hleft : cursor.columns.length - cursor.readColumns =
      cursor.columns.length - (cursor.readColumns + 1) + 1 := by omega
  rw [ahead, hleft]
  exact Row.outcomes_drop cursor.packet cursor.offset _

theorem readNext_ahead :
    cursor.readNext.1.map (fun span ↦ slice cursor.packet span.start span.stop) =
        (cursor.ahead.head?.bind Except.toOption).join ∧
      cursor.readNext.2.ahead = cursor.ahead.tail ∧
      cursor.readNext.2.valueError =
        ((cursor.ahead.head?.bind Operation.nullBytes.complaint?) <|> cursor.valueError) := by
  cases hcolumn : cursor.columns[cursor.readColumns]? with
  | none =>
    have hread : cursor.columns.length ≤ cursor.readColumns := List.getElem?_eq_none_iff.mp hcolumn
    have hahead : cursor.ahead = [] := by
      rw [ahead, Nat.sub_eq_zero_of_le hread, Row.outcomes]
    rw [readNext_of_none hcolumn, hahead]
    exact ⟨rfl, rfl, rfl⟩
  | some column =>
    rw [cursor.ahead_of_column hcolumn]
    cases hvalue : Row.readValue cursor.packet cursor.offset with
    | error error =>
      rw [readNext_of_error hcolumn hvalue]
      exact ⟨rfl, ahead_leaveRow _, rfl⟩
    | ok taken =>
      obtain ⟨span, next⟩ := taken
      rw [readNext_of_ok hcolumn hvalue]
      refine ⟨rfl, rfl, ?_⟩
      cases span <;> rfl

theorem Reads.ahead_eq {cursor cursor' : Cursor σ} (h : cursor.Reads cursor') :
    cursor'.ahead = cursor.ahead.tail := by
  obtain ⟨valueError, rfl⟩ := h.eq_readNext
  exact cursor.readNext_ahead.2.1

theorem valueError_nullBytes :
    cursor.nullBytes.2.valueError =
      ((cursor.ahead.head?.bind Operation.nullBytes.complaint?) <|> cursor.valueError) := by
  rw [nullBytes_apply]
  exact cursor.readNext_ahead.2.2

theorem valueError_nullValue (α : Type) [FromText α] :
    (cursor.nullValue α).2.valueError =
      ((cursor.ahead.head?.bind (Operation.nullValue α).complaint?) <|> cursor.valueError) := by
  obtain ⟨hvalue, -, herror⟩ := cursor.readNext_ahead
  rw [nullValue_apply, hvalue]
  rcases hhead : cursor.ahead.head? with _ | (error | (_ | data))
  all_goals rw [hhead] at herror
  · exact herror
  · exact herror
  · exact herror
  · cases hcoerced : (FromText.fromText data : Except Error α) with
    | ok value =>
      simpa [hcoerced, Except.toOption, Operation.complaint?, Operation.refusal?] using herror
    | error error =>
      simp [hcoerced, Except.toOption, Operation.complaint?, Operation.refusal?]

theorem valueError_nextRow : cursor.nextRow.2.valueError = cursor.valueError := by
  obtain ⟨-, hcall⟩ |
    ⟨-, ⟨packet, stream, -, hcall⟩ | ⟨stream, -, hcall⟩ | ⟨error, stream, -, hcall⟩⟩ :=
    cursor.nextRow_cases
  all_goals rw [hcall]
  all_goals rfl

/-- An operation that complains replaces the complaint before it. -/
theorem valueError_perform (operation : Operation) :
    (cursor.perform operation).2.valueError =
      ((cursor.ahead.head?.bind operation.complaint?) <|> cursor.valueError) := by
  have hsilent (h : operation.complaint? = fun _ ↦ none) :
      ((cursor.ahead.head?.bind operation.complaint?) <|> cursor.valueError) =
        cursor.valueError := by
    rw [h]
    cases cursor.ahead.head? <;> rfl
  have hcomplaint (hread : operation.isRead = false)
      (hrefusal : ∀ data, operation.refusal? data = none) :
      operation.complaint? = fun _ ↦ none := by
    funext found
    rcases found with error | (_ | data)
    · simp [Operation.complaint?, hread]
    · rfl
    · exact hrefusal data
  cases operation with
  | nextRow =>
    rw [hsilent (hcomplaint rfl fun _ ↦ rfl)]
    exact cursor.valueError_nextRow
  | nullBytes => exact cursor.valueError_nullBytes
  | bytes => exact cursor.valueError_nullBytes
  | nullValue α => exact cursor.valueError_nullValue α
  | value α => exact cursor.valueError_nullValue α
  | decoded | columns | isExhausted | lastError =>
    rw [hsilent (hcomplaint rfl fun _ ↦ rfl)]
    rfl

def failure? (calls : Nat) : Option Error :=
  if cursor.Over then cursor.readError else RowStream.failure? calls cursor.stream

theorem failure?_zero : cursor.failure? 0 = cursor.readError := by
  unfold failure?
  split
  · rfl
  · next hover => exact (not_over_iff.mp hover).2.symm

theorem nextRow_ahead [LawfulRowStream σ] (hleft : cursor.Over → cursor.ahead = []) :
    (∀ calls, cursor.nextRow.2.failure? calls = cursor.failure? (calls + 1)) ∧
      cursor.nextRow.2.ahead = (cursor.row? 0).elim [] (Row.outcomes cursor.columns.length) ∧
      (cursor.nextRow.2.Over → cursor.nextRow.2.ahead = []) := by
  have hcolumns := cursor.columns_nextRow
  obtain ⟨hover, hcall⟩ | ⟨hover, hasked⟩ := cursor.nextRow_cases
  · have hnone : cursor.row? 0 = none := if_pos hover
    have hfailure (calls : Nat) : cursor.failure? calls = cursor.readError := if_pos hover
    rw [hcall, hnone]
    exact ⟨fun calls ↦ (hfailure calls).trans (hfailure (calls + 1)).symm, hleft hover, hleft⟩
  have hcoming : cursor.row? 0 = RowStream.row? 0 cursor.stream := if_neg hover
  have hfailure (calls : Nat) : cursor.failure? calls = RowStream.failure? calls cursor.stream :=
    if_neg hover
  rw [hcoming]
  simp only [hfailure, RowStream.row?, RowStream.failure?]
  obtain ⟨packet, stream, hnext, hcall⟩ | ⟨stream, hnext, hcall⟩ | ⟨error, stream, hnext, hcall⟩ :=
    hasked
  · rw [hnext]
    rw [hcall] at hcolumns ⊢
    refine ⟨fun calls ↦ if_neg hover, ?_, fun hover' ↦ absurd hover' hover⟩
    rw [ahead, hcolumns]
    rfl
  · rw [hnext, hcall]
    have hleave := ahead_leaveRow { cursor with stream, exhausted := true }
    exact ⟨fun calls ↦ (if_pos (.inl rfl)).trans (not_over_iff.mp hover).2, hleave, fun _ ↦ hleave⟩
  · rw [hnext, hcall]
    have hleave := ahead_leaveRow { cursor with stream, readError := some error }
    exact ⟨fun calls ↦ if_pos (.inr rfl), hleave, fun _ ↦ hleave⟩

end Ahead

section Facing

variable {σ : Type} [RowStream σ] {stream : σ} {position : Position} {cursor cursor' : Cursor σ}

/-- The position tells what there is to find, and which failure has been met. -/
structure Facing (stream : σ) (position : Position) (cursor : Cursor σ) : Prop
    extends At stream position cursor where
  failure?_eq (calls : Nat) :
    cursor.failure? calls = RowStream.failure? (position.row + calls) stream
  ahead_eq : cursor.ahead = (offered stream position.row).drop position.column
  ahead_of_over : cursor.Over → cursor.ahead = []

theorem Facing.ofStream (stream : σ) : Facing stream ⟨0, 0⟩ (.ofStream stream) where
  toAt := .ofStream stream
  failure?_eq calls := by
    rw [Nat.zero_add]
    exact if_neg (not_over_ofStream stream)
  ahead_eq := (Cursor.ofStream stream).ahead_leaveRow
  ahead_of_over _ := (Cursor.ofStream stream).ahead_leaveRow

theorem Facing.nextRow [LawfulRowStream σ] (h : Facing stream position cursor) :
    Facing stream ⟨position.row + 1, 0⟩ cursor.nextRow.2 := by
  obtain ⟨hfailure, hahead, hover⟩ := cursor.nextRow_ahead h.ahead_of_over
  refine ⟨h.toAt.nextRow, fun calls ↦ ?_, ?_, hover⟩
  · rw [hfailure, h.failure?_eq, Nat.add_right_comm, Nat.add_assoc]
  · rw [hahead, h.row?_eq, h.columns_eq]
    rfl

theorem Facing.read (h : Facing stream position cursor) (hread : cursor.Reads cursor') :
    Facing stream ⟨position.row, position.column + 1⟩ cursor' := by
  have hahead := hread.ahead_eq
  refine ⟨h.toAt.read hread, fun calls ↦ ?_, ?_, fun hover' ↦ ?_⟩
  · rw [← h.failure?_eq calls, failure?, failure?, hread.stream_eq, hread.readError_eq]
    simp only [hread.over_iff]
  · rw [hahead, h.ahead_eq, List.tail_drop]
  · rw [hahead, h.ahead_of_over (hread.over_iff.mp hover')]
    rfl

theorem Facing.perform [LawfulRowStream σ] (h : Facing stream position cursor)
    (operation : Operation) :
    Facing stream (position.advance operation) (cursor.perform operation).2 :=
  perform_induction Facing.nextRow Facing.read _ h operation

theorem Facing.head?_ahead (h : Facing stream position cursor) :
    cursor.ahead.head? = (offered stream position.row)[position.column]? := by
  rw [h.ahead_eq, List.head?_drop]

theorem Facing.after [LawfulRowStream σ] (h : Facing stream position cursor)
    (operations : List Operation) :
    Facing stream (operations.foldl Position.advance position) (cursor.after operations) ∧
      (cursor.after operations).valueError =
        ((complaints stream position operations).getLast? <|> cursor.valueError) := by
  induction operations generalizing position cursor with
  | nil => exact ⟨h, rfl⟩
  | cons operation operations ih =>
    obtain ⟨hafter, herror⟩ := ih (h.perform operation)
    refine ⟨hafter, herror.trans ?_⟩
    -- A complaint of the calls to come counts, else that of this call, else that of those before it.
    rw [complaints, List.getLast?_append, cursor.valueError_perform operation, h.head?_ahead]
    cases (offered stream position.row)[position.column]?.bind operation.complaint? <;>
      cases (complaints stream (position.advance operation) operations).getLast? <;> rfl

/-- There is no value at the position, or only NULL. -/
def Vacant (stream : σ) (position : Position) : Prop :=
  position.row = 0 ∨ RowStream.row? (position.row - 1) stream = none ∨
    (RowStream.columns stream).length ≤ position.column ∨
    (∃ column error, column < position.column ∧
      (offered stream position.row)[column]? = some (.error error)) ∨
    (offered stream position.row)[position.column]? = some (.ok none)

theorem Vacant.silent (h : Vacant stream position) (operation : Operation) :
    (offered stream position.row)[position.column]?.bind operation.complaint? = none := by
  obtain ⟨_ | row, column⟩ := position
  · rfl
  cases hrow : RowStream.row? row stream with
  | none =>
    have hoffered : offered stream (row + 1) = [] := by
      rw [offered, hrow]
      rfl
    rw [hoffered]
    rfl
  | some packet =>
    have hoffered : offered stream (row + 1) =
        Row.outcomes (RowStream.columns stream).length packet := by
      rw [offered, hrow]
      rfl
    obtain h | h | hpast | ⟨before, error, hbefore, herror⟩ | hnull := h
    · cases h
    · cases hrow.symm.trans h
    · have hlength := Row.length_outcomes_le (RowStream.columns stream).length packet
      rw [hoffered, List.getElem?_eq_none (Nat.le_trans hlength hpast)]
      rfl
    · rw [hoffered] at herror ⊢
      have hlength := Row.length_outcomes_of_error herror
      rw [List.getElem?_eq_none (by omega)]
      rfl
    · rw [hnull]
      rfl

/-- The error that is left of a run is that of the stream, if a call for a row has met it, else the
last one that the accessors complained of; where there is nothing to read they leave it as it is. -/
theorem lastError_after [LawfulRowStream σ] (stream : σ) (operations : List Operation) :
    let position := Position.behind operations
    let cursor := (Cursor.ofStream stream).after operations
    let error := RowStream.failure? position.row stream <|>
      (complaints stream ⟨0, 0⟩ operations).getLast?
    cursor.lastError = error ∧ cursor.intoError = error ∧
      (Vacant stream position → ∀ operation : Operation, operation.isRead →
        (cursor.perform operation).2.lastError = error) := by
  intro position cursor error
  obtain ⟨hfacing, hvalue⟩ : Facing stream position cursor ∧ _ :=
    (Facing.ofStream stream).after operations
  have hread : cursor.readError = RowStream.failure? position.row stream :=
    cursor.failure?_zero.symm.trans (hfacing.failure?_eq 0)
  have hlast : cursor.lastError = error := by
    have hlatest : cursor.valueError = (complaints stream ⟨0, 0⟩ operations).getLast? := by
      refine hvalue.trans ?_
      cases (complaints stream ⟨0, 0⟩ operations).getLast? <;> rfl
    rw [lastError, hread, hlatest]
  refine ⟨hlast, ?_, fun hvacant operation hisRead ↦ ?_⟩
  · rw [← hlast, intoError, lastError]
    cases cursor.readError <;> rfl
  · have hkept : (cursor.perform operation).2.valueError = cursor.valueError := by
      rw [valueError_perform, hfacing.head?_ahead, hvacant.silent operation]
      rfl
    have hunread : (cursor.perform operation).2.readError = cursor.readError :=
      (cursor.reads_perform hisRead).readError_eq
    rw [← hlast, lastError, lastError, hkept, hunread]

end Facing

/-- A row that claims more than it carries, one with a text that is none in front of NULL, and a
failure. -/
def spoiledStream : ObservedRows BufferedRows where
  stream := {
    columns := [{ name := "a" }, { name := "b" }]
    rows := [[10, 0x61, 0x62], [1, 0xFF, 0xFB]] }
  failure := some (.io .connectionReset)

theorem lastError_after_spoiled :
    let first : List Operation := [.bytes, .nextRow, .nullBytes]
    let operations := first ++ [.bytes, .nextRow, .value String]
    ((ofStream spoiledStream).after first).lastError = some .unexpectedEof ∧
      ((ofStream spoiledStream).after operations).intoError = some .invalidUtf8 ∧
      (((ofStream spoiledStream).after operations).perform .bytes).2.lastError = some .invalidUtf8 ∧
      ((ofStream spoiledStream).after (operations ++ [.nextRow, .bytes])).intoError =
        some (.io .connectionReset) := by
  intro first operations
  have hmalformed := lastError_after spoiledStream first
  obtain ⟨-, hcoerced, hsilent⟩ := lastError_after spoiledStream operations
  have hfailed := lastError_after spoiledStream (operations ++ [.nextRow, .bytes])
  have hnull : Vacant spoiledStream (Position.behind operations) := by
    refine .inr (.inr (.inr (.inr ?_)))
    decide
  refine ⟨hmalformed.1.trans ?_, hcoerced.trans ?_, (hsilent hnull .bytes rfl).trans ?_,
    hfailed.2.1.trans ?_⟩
  all_goals decide +kernel

end Cursor

end SqlClient
