import SqlClient.Proofs.Cursor.Position

namespace SqlClient

theorem Row.next_of_readValue {row : Bytes} {offset next : Nat} {span : Option Span}
    (h : readValue row offset = .ok (span, next)) : next ≤ row.length := by
  by_cases hnull : (row.drop offset).head? = some nullMarker
  · cases (readValue_null hnull).symm.trans h
    by_contra hout
    rw [List.drop_eq_nil_of_le (by omega)] at hnull
    cases hnull
  · cases hstring : Decoder.lenencString (row.drop offset) with
    | error error => cases (readValue_of_malformed hnull hstring).symm.trans h
    | ok taken =>
      obtain ⟨span', hread, -, hstop, -⟩ := readValue_of_lenencString hnull hstring
      cases hread.symm.trans h
      exact hstop

namespace Cursor

section Note

variable (name : String) (sighting : Sighting) (sightings : List (String × Sighting))

theorem lookup_note_self : (note name sighting sightings).lookup name = some sighting :=
  List.lookup_cons_self

theorem lookup_note_of_ne {other : String} (h : other ≠ name) :
    (note name sighting sightings).lookup other = sightings.lookup other := by
  have hkept : (sightings.filter (·.1 ≠ name)).lookup other = sightings.lookup other := by
    induction sightings with
    | nil => rfl
    | cons entry sightings ih =>
      obtain ⟨noted, sighting'⟩ := entry
      by_cases hnoted : noted = name
      · rw [List.filter_cons_of_neg (by simpa using hnoted), ih, List.lookup_cons,
          beq_false_of_ne (hnoted ▸ h)]
      · rw [List.filter_cons_of_pos (by simpa using hnoted), List.lookup_cons, List.lookup_cons, ih]
  rw [note, List.lookup_cons, beq_false_of_ne h]
  exact hkept

theorem mem_of_lookup {sightings : List (String × Sighting)} {name : String} {sighting : Sighting}
    (h : sightings.lookup name = some sighting) : (name, sighting) ∈ sightings := by
  obtain ⟨front, rest, rfl, -⟩ := List.lookup_eq_some_iff.mp h
  exact List.mem_append_right _ (List.mem_cons_self ..)

end Note

variable {σ : Type}

section Sightings

variable (cursor : Cursor σ)

def Bounded : Prop :=
  ∀ entry ∈ cursor.sightings, entry.2.row ≤ cursor.row

def Stale : Prop :=
  ∀ entry ∈ cursor.sightings, entry.2.row < cursor.row

variable {cursor} {name : String}

theorem decoded_apply [RowStream σ] (cursor : Cursor σ) (name : String) :
    cursor.decoded name = match cursor.sightings.lookup name with
      | none => none
      | some ⟨row, span, isNull⟩ =>
        if row = cursor.row ∧ span.start ≤ span.stop ∧ span.stop ≤ cursor.packet.length then
          some (slice cursor.packet span.start span.stop, isNull)
        else none := by
  unfold decoded guard
  cases cursor.sightings.lookup name with
  | none => rfl
  | some sighting =>
    obtain ⟨row, span, isNull⟩ := sighting
    change ((if row = cursor.row then pure ⟨⟩ else failure : Option PUnit) >>= fun _ ↦
      (if span.start ≤ span.stop ∧ span.stop ≤ cursor.packet.length then pure ⟨⟩ else failure :
        Option PUnit) >>= fun _ ↦ pure (slice cursor.packet span.start span.stop, isNull)) = _
    by_cases hrow : row = cursor.row
    · by_cases hspan : span.start ≤ span.stop ∧ span.stop ≤ cursor.packet.length
      · rw [if_pos hrow, if_pos hspan]
        exact (if_pos ⟨hrow, hspan⟩).symm
      · rw [if_pos hrow, if_neg hspan]
        exact (if_neg fun h ↦ hspan h.2).symm
    · rw [if_neg hrow]
      exact (if_neg fun h ↦ hrow h.1).symm

theorem decoded_of_lookup [RowStream σ] {span : Row.Span} {isNull : Bool}
    (h : cursor.sightings.lookup name = some ⟨cursor.row, span, isNull⟩)
    (hspan : span.start ≤ span.stop ∧ span.stop ≤ cursor.packet.length) :
    cursor.decoded name = some (slice cursor.packet span.start span.stop, isNull) := by
  rw [decoded_apply, h]
  exact if_pos ⟨rfl, hspan⟩

theorem Stale.decoded_eq [RowStream σ] (h : cursor.Stale) : cursor.decoded name = none := by
  rw [decoded_apply]
  cases hlookup : cursor.sightings.lookup name with
  | none => rfl
  | some sighting =>
    have hrow : sighting.row < cursor.row := h _ (mem_of_lookup hlookup)
    apply if_neg
    rintro ⟨heq, -⟩
    exact Nat.ne_of_lt hrow heq

end Sightings

variable [RowStream σ]

/-- What is shown under the name once the columns have been read one after the other. -/
def shown (name : String) (read : List (Column × Option Bytes)) : Option (Bytes × Bool) :=
  ((read.filter (·.1.name = name)).getLast?).map fun (_, value) ↦ asBytes value

theorem shown_concat (name : String) (read : List (Column × Option Bytes)) (column : Column)
    (value : Option Bytes) :
    shown name (read ++ [(column, value)]) =
      if column.name = name then some (asBytes value) else shown name read := by
  unfold shown
  by_cases hname : column.name = name
  · simp [hname]
  · simp [hname]

def left (cursor : Cursor σ) : List (Column × Option Bytes) :=
  (cursor.columns.drop cursor.readColumns).zip cursor.unread

theorem left_leaveRow (cursor : Cursor σ) : cursor.leaveRow.left = [] := by
  rw [left, unread_leaveRow, List.zip_nil_right]

theorem readNext_left (cursor : Cursor σ) :
    cursor.readNext.2.left = cursor.left.tail ∧
      ∀ name, cursor.readNext.2.decoded name =
        cursor.left.head?.elim (cursor.decoded name) fun (column, value) ↦
          if column.name = name then some (asBytes value) else cursor.decoded name := by
  cases hcolumn : cursor.columns[cursor.readColumns]? with
  | none =>
    have hread : cursor.columns.length ≤ cursor.readColumns := List.getElem?_eq_none_iff.mp hcolumn
    have hleft : cursor.left = [] := by rw [left, List.drop_eq_nil_of_le hread, List.zip_nil_left]
    rw [readNext_of_none hcolumn, hleft]
    exact ⟨rfl, fun name ↦ rfl⟩
  | some column =>
    have hunread := cursor.unread_of_column hcolumn
    obtain ⟨hlt, rfl⟩ := List.getElem?_eq_some_iff.mp hcolumn
    have hleft : cursor.left = (cursor.columns[cursor.readColumns] ::
        cursor.columns.drop (cursor.readColumns + 1)).zip cursor.unread := by
      rw [left, List.drop_eq_getElem_cons hlt]
    cases hvalue : Row.readValue cursor.packet cursor.offset with
    | error error =>
      rw [hvalue] at hunread
      rw [readNext_of_error hcolumn hvalue, hleft, hunread, List.zip_nil_right]
      exact ⟨left_leaveRow _, fun name ↦ rfl⟩
    | ok taken =>
      obtain ⟨span, next⟩ := taken
      rw [hvalue] at hunread
      rw [readNext_of_ok hcolumn hvalue, hleft, hunread]
      refine ⟨rfl, fun name ↦ ?_⟩
      simp only [List.zip_cons_cons, List.head?_cons, Option.elim_some]
      split
      · next hname =>
        subst hname
        rw [decoded_of_lookup (lookup_note_self ..)]
        · cases span with
          | none => simp [asBytes, slice]
          | some span => rfl
        · cases span with
          | none => exact ⟨Nat.le_refl next, Row.next_of_readValue hvalue⟩
          | some span => exact Row.span_of_readValue hvalue
      · next hname =>
        rw [decoded_apply, decoded_apply]
        simp only [lookup_note_of_ne _ _ _ (Ne.symm hname)]

theorem bounded_readNext {cursor : Cursor σ} (h : cursor.Bounded) : cursor.readNext.2.Bounded := by
  cases hcolumn : cursor.columns[cursor.readColumns]? with
  | none =>
    rw [readNext_of_none hcolumn]
    exact h
  | some column =>
    cases hvalue : Row.readValue cursor.packet cursor.offset with
    | error error =>
      rw [readNext_of_error hcolumn hvalue]
      exact h
    | ok taken =>
      rw [readNext_of_ok hcolumn hvalue]
      intro entry hentry
      obtain rfl | hentry := List.mem_cons.mp hentry
      · exact Nat.le_refl cursor.row
      · exact h entry (List.mem_filter.mp hentry).1

def seen (stream : σ) (position : Position) : List (Column × Option Bytes) :=
  ((RowStream.columns stream).zip (entered stream position.row)).take position.column

def rowAnswers (operations : List Operation) (cursor : Cursor σ) : List Bool :=
  (answers operations cursor).filterMap fun
    | ⟨.nextRow, answer⟩ => some answer
    | _ => none

structure Spent (cursor : Cursor σ) : Prop where
  isOver : cursor.Over
  all_read : cursor.columns.length ≤ cursor.readColumns
  stale : cursor.Stale

section Naming

variable {stream : σ} {position : Position} {cursor cursor' : Cursor σ}

/-- The position tells what is shown. A cursor that is over shows nothing, and has nothing left to
read. -/
structure Naming (stream : σ) (position : Position) (cursor : Cursor σ) : Prop
    extends At stream position cursor where
  left_eq : cursor.left =
    ((RowStream.columns stream).zip (entered stream position.row)).drop position.column
  decoded_eq (name : String) : cursor.decoded name = shown name (seen stream position)
  bounded : cursor.Bounded
  spent_of_over : cursor.Over → cursor.Spent

theorem Naming.ofStream (stream : σ) : Naming stream ⟨0, 0⟩ (.ofStream stream) where
  toAt := .ofStream stream
  left_eq := by
    rw [entered, List.zip_nil_right, List.drop_nil]
    exact (Cursor.ofStream stream).left_leaveRow
  decoded_eq _ := rfl
  bounded _ hentry := by cases hentry
  spent_of_over hover := absurd hover (not_over_ofStream stream)

/-- The rows move on and the map of names does not: what it holds is stale after any call for a
row, and a row that was not entered leaves nothing to read. -/
theorem Naming.stale_nextRow (h : Naming stream position cursor) :
    cursor.nextRow.2.Stale ∧
      (cursor.nextRow.2.Over → cursor.nextRow.2.columns.length ≤ cursor.nextRow.2.readColumns) ∧
      (cursor.nextRow.2.readColumns = 0 ∨ cursor.nextRow.2.unread = []) := by
  have hbehind : ∀ entry ∈ cursor.sightings, entry.2.row < cursor.row + 1 := fun entry hentry ↦
    Nat.lt_succ_of_le (h.bounded entry hentry)
  obtain ⟨hover, hcall⟩ |
    ⟨hover, ⟨packet, stream, -, hcall⟩ | ⟨stream, -, hcall⟩ | ⟨error, stream, -, hcall⟩⟩ :=
    cursor.nextRow_cases
  all_goals rw [hcall]
  -- A cursor that is over no longer counts its calls: there the map is stale already.
  · have hspent := h.spent_of_over hover
    exact ⟨hspent.stale, fun _ ↦ hspent.all_read, .inr (h.unread_of_over hover)⟩
  · exact ⟨hbehind, fun hover' ↦ absurd hover' hover, .inl rfl⟩
  · exact ⟨hbehind, fun _ ↦ Nat.le_refl _, .inr (unread_leaveRow _)⟩
  · exact ⟨hbehind, fun _ ↦ Nat.le_refl _, .inr (unread_leaveRow _)⟩

theorem Naming.nextRow [LawfulRowStream σ] (h : Naming stream position cursor) :
    Naming stream ⟨position.row + 1, 0⟩ cursor.nextRow.2 := by
  have hat := h.toAt.nextRow
  obtain ⟨hstale, hread, hleft⟩ := h.stale_nextRow
  refine ⟨hat, ?_, fun name ↦ hstale.decoded_eq, fun entry hentry ↦ ?_, fun hover ↦ ?_⟩
  · have hunread : cursor.nextRow.2.unread = entered stream (position.row + 1) := hat.unread_eq
    rw [List.drop_zero, ← hunread, ← hat.columns_eq, left]
    obtain hread | hnil := hleft
    · rw [hread, List.drop_zero]
    · rw [hnil, List.zip_nil_right, List.zip_nil_right]
  · exact Nat.le_of_lt (hstale entry hentry)
  · exact ⟨hover, hread hover, hstale⟩

theorem Naming.read (h : Naming stream position cursor) (hread : cursor.Reads cursor') :
    Naming stream ⟨position.row, position.column + 1⟩ cursor' := by
  have hat := h.toAt.read hread
  have hover := hread.over_iff
  obtain ⟨valueError, rfl⟩ := hread.eq_readNext
  obtain ⟨hleft, hdecoded⟩ := cursor.readNext_left
  refine ⟨hat, ?_, fun name ↦ ?_, bounded_readNext h.bounded, fun hover' ↦ ?_⟩
  · rw [← List.tail_drop, ← h.left_eq]
    exact hleft
  · have hread : seen stream ⟨position.row, position.column + 1⟩ =
        seen stream position ++ cursor.left.head?.toList := by
      rw [seen, List.take_add_one, h.left_eq, List.head?_drop]
      rfl
    refine (hdecoded name).trans ?_
    rw [hread, h.decoded_eq]
    cases cursor.left.head? with
    | none => rw [Option.toList_none, List.append_nil, Option.elim_none]
    | some found => exact (shown_concat ..).symm
  · have hspent := h.spent_of_over (hover.mp hover')
    rw [readNext_of_none (List.getElem?_eq_none hspent.all_read)]
    exact ⟨hspent.isOver, hspent.all_read, hspent.stale⟩

theorem Naming.after [LawfulRowStream σ] (h : Naming stream position cursor)
    (operations : List Operation) :
    Naming stream (operations.foldl Position.advance position) (cursor.after operations) :=
  after_induction Naming.nextRow Naming.read _ h operations

def isEntered (stream : σ) : Nat → Bool
  | 0 => false
  | row + 1 => (RowStream.row? row stream).isSome

theorem At.getLast?_rowAnswers [LawfulRowStream σ] (h : At stream position cursor)
    (operations : List Operation) :
    (rowAnswers operations cursor).getLast?.getD (isEntered stream position.row) =
      isEntered stream (operations.foldl Position.advance position).row := by
  induction operations generalizing position cursor with
  | nil => rfl
  | cons operation operations ih =>
    have hrest := ih (h.perform operation)
    cases operation with
    | nextRow =>
      have hanswer : cursor.nextRow.1 = isEntered stream (position.row + 1) := h.answers.1
      change (cursor.nextRow.1 :: rowAnswers operations cursor.nextRow.2).getLast?.getD _ = _
      rw [List.getLast?_cons, Option.getD_some, hanswer]
      exact hrest
    | nullBytes | bytes | nullValue | value | decoded | columns | isExhausted | lastError =>
      exact hrest

theorem seen_eq_nil (h : isEntered stream position.row = false) : seen stream position = [] := by
  obtain ⟨_ | row, column⟩ := position
  · rw [seen, entered, List.zip_nil_right, List.take_nil]
  · have hnone : RowStream.row? row stream = none := by simpa [isEntered] using h
    rw [seen, entered, hnone, Option.elim_none, List.zip_nil_right, List.take_nil]

theorem isSome_shown {name : String} {read : List (Column × Option Bytes)} :
    (shown name read).isSome ↔ ∃ column value, (column, value) ∈ read ∧ column.name = name := by
  simp [shown]

def idle (cursor : Cursor σ) : (operation : Operation) → operation.Answer
  | .nextRow => false
  | .nullBytes => ([], true)
  | .bytes => []
  | @Operation.nullValue _ _ => (default, true)
  | @Operation.value α _ => (default : α)
  | .decoded _ => none
  | .columns => cursor.columns
  | .isExhausted => cursor.exhausted
  | .lastError => cursor.lastError

theorem Spent.perform_eq (h : cursor.Spent) (operation : Operation) :
    cursor.perform operation = (cursor.idle operation, cursor) := by
  have hnext : cursor.readNext = (none, cursor) :=
    readNext_of_none (List.getElem?_eq_none h.all_read)
  have hbytes : cursor.nullBytes = (([], true), cursor) := by rw [nullBytes, hnext]
  have hvalue (α : Type) [FromText α] : cursor.nullValue α = ((default, true), cursor) := by
    rw [nullValue, hnext]
  cases operation with
  | nextRow => exact nextRow_of_over h.isOver
  | nullBytes => exact hbytes
  | bytes => exact congrArg (fun result ↦ (result.1.1, result.2)) hbytes
  | nullValue α => exact hvalue α
  | value α => exact congrArg (fun result ↦ (result.1.1, result.2)) (hvalue α)
  | decoded name => exact congrArg (·, cursor) h.stale.decoded_eq
  | columns | isExhausted | lastError => rfl

theorem Spent.answers_eq (h : cursor.Spent) (operations : List Operation) :
    answers operations cursor =
      operations.map fun operation ↦ ⟨operation, cursor.idle operation⟩ := by
  induction operations with
  | nil => rfl
  | cons operation operations ih => rw [answers, h.perform_eq, ih, List.map_cons]

/-- What is in the buffer behind the end of the rows does not show. -/
theorem Spent.answers_packet (h : cursor.Spent) (packet : Bytes) (operations : List Operation) :
    answers operations { cursor with packet } = answers operations cursor := by
  have hspent : Spent { cursor with packet } := ⟨h.isOver, h.all_read, h.stale⟩
  rw [hspent.answers_eq, h.answers_eq]
  refine List.map_congr_left fun operation _ ↦ ?_
  cases operation <;> rfl

/-- A name shows the value that was last read under it from the current row, and nothing where the
last call for a row has not led to one, whatever is left of earlier rows. What has come into the
buffer since does not show. -/
theorem decoded_after [LawfulRowStream σ] (stream : σ) (operations : List Operation)
    (name : String) :
    let start := Cursor.ofStream stream
    let cursor := start.after operations
    let read := seen stream (Position.behind operations)
    cursor.decoded name = shown name read ∧
      ((cursor.decoded name).isSome ↔ (rowAnswers operations start).getLast? = some true ∧
        ∃ column value, (column, value) ∈ read ∧ column.name = name) ∧
      (cursor.Over → ∀ (packet : Bytes) (more : List Operation),
        answers more { cursor with packet } = answers more cursor) := by
  intro start cursor read
  have hnaming : Naming stream (Position.behind operations) cursor :=
    (Naming.ofStream stream).after operations
  have hanswers : (rowAnswers operations start).getLast?.getD false =
      isEntered stream (Position.behind operations).row :=
    (At.ofStream stream).getLast?_rowAnswers operations
  refine ⟨hnaming.decoded_eq name, ?_, fun hover packet more ↦ ?_⟩
  · rw [hnaming.decoded_eq name, isSome_shown]
    refine ⟨fun hread ↦ ⟨?_, hread⟩, And.right⟩
    obtain ⟨column, value, hread, -⟩ := hread
    cases hentered : isEntered stream (Position.behind operations).row with
    | false =>
      rw [seen_eq_nil hentered] at hread
      cases hread
    | true =>
      rw [hentered] at hanswers
      cases hlast : (rowAnswers operations start).getLast? with
      | some answer =>
        rw [hlast, Option.getD_some] at hanswers
        rw [hanswers]
      | none =>
        rw [hlast] at hanswers
        cases hanswers
  · exact (hnaming.spent_of_over hover).answers_packet packet more

end Naming

/-- Two columns of one name, a row that breaks off in the third column, and one behind it. -/
def namesake : BufferedRows where
  columns := [{ name := "x" }, { name := "x" }, { name := "y" }]
  rows := [[1, 0x31, 0xFB, 9], [1, 0x32]]

theorem decoded_after_namesake :
    let first : List Operation := [.nextRow, .bytes, .nullBytes, .value Int64]
    let second := first ++ [.nextRow]
    let third := second ++ [.bytes, .nextRow]
    ((ofStream namesake).after (first.take 2)).decoded "x" = some ([0x31], false) ∧
      ((ofStream namesake).after first).decoded "x" = some ([], true) ∧
      ((ofStream namesake).after first).decoded "y" = none ∧
      ((ofStream namesake).after second).decoded "x" = none ∧
      ((ofStream namesake).after (second ++ [.bytes])).decoded "x" = some ([0x32], false) ∧
      ((ofStream namesake).after third).decoded "x" = none ∧
      answers [.decoded "x", .bytes]
        { (ofStream namesake).after third with packet := [0xFE, 0, 0, 0, 0] } =
          [⟨.decoded "x", none⟩, ⟨.bytes, []⟩] := by
  intro first second third
  have hread (operations : List Operation) (name : String) :=
    (decoded_after namesake operations name).1
  refine ⟨(hread ..).trans ?_, (hread ..).trans ?_, (hread ..).trans ?_, (hread ..).trans ?_,
    (hread ..).trans ?_, (hread ..).trans ?_,
    ((decoded_after namesake third "x").2.2 (by decide) _ _).trans rfl⟩
  all_goals decide

end Cursor

end SqlClient
