import SqlClient.Cursor
import SqlClient.Proofs.Codec.Row

namespace SqlClient.Cursor

variable {σ : Type}

structure SameRow (cursor cursor' : Cursor σ) : Prop where
  stream_eq : cursor'.stream = cursor.stream
  packet_eq : cursor'.packet = cursor.packet
  exhausted_eq : cursor'.exhausted = cursor.exhausted
  readError_eq : cursor'.readError = cursor.readError
  valueError_eq : cursor'.valueError = cursor.valueError

theorem SameRow.refl (cursor : Cursor σ) : cursor.SameRow cursor :=
  ⟨rfl, rfl, rfl, rfl, rfl⟩

theorem SameRow.trans {cursor cursor' cursor'' : Cursor σ} (h : cursor.SameRow cursor')
    (h' : cursor'.SameRow cursor'') : cursor.SameRow cursor'' :=
  ⟨h'.stream_eq.trans h.stream_eq, h'.packet_eq.trans h.packet_eq,
    h'.exhausted_eq.trans h.exhausted_eq, h'.readError_eq.trans h.readError_eq,
    h'.valueError_eq.trans h.valueError_eq⟩

variable [RowStream σ]

/-- What is read next is a matter of the row that the cursor is on. -/
theorem exists_readNext (cursor : Cursor σ) :
    ∃ offset readColumns valueError sightings,
      cursor.readNext.2 = { cursor with offset, readColumns, valueError, sightings } := by
  unfold readNext
  split
  · exact ⟨_, _, _, _, rfl⟩
  · split <;> exact ⟨_, _, _, _, rfl⟩

theorem packet_readNext (cursor : Cursor σ) : cursor.readNext.2.packet = cursor.packet := by
  obtain ⟨_, _, _, _, hnext⟩ := cursor.exists_readNext
  rw [hnext]

section ReadNext

variable {cursor : Cursor σ} {column : Column}

theorem readNext_of_none (hcolumn : cursor.columns[cursor.readColumns]? = none) :
    cursor.readNext = (none, cursor) := by
  rw [readNext, hcolumn]

theorem readNext_of_error (hcolumn : cursor.columns[cursor.readColumns]? = some column)
    {error : Error} (hvalue : Row.readValue cursor.packet cursor.offset = .error error) :
    cursor.readNext = (none, { cursor with
      valueError := some error, readColumns := cursor.columns.length }) := by
  rw [readNext, hcolumn]
  simp only [hvalue]

theorem readNext_of_ok (hcolumn : cursor.columns[cursor.readColumns]? = some column)
    {span : Option Row.Span} {offset : Nat}
    (hvalue : Row.readValue cursor.packet cursor.offset = .ok (span, offset)) :
    cursor.readNext = (span, { cursor with
      offset, readColumns := cursor.readColumns + 1
      sightings := note column.name ⟨cursor.row, span.getD ⟨offset, offset⟩, span.isNone⟩
        cursor.sightings }) := by
  rw [readNext, hcolumn]
  simp only [hvalue]

end ReadNext

def asBytes (value : Option Bytes) : Bytes × Bool :=
  (value.getD [], value.isNone)

theorem nullBytes_apply (cursor : Cursor σ) :
    cursor.nullBytes =
      (asBytes (cursor.readNext.1.map fun span ↦ slice cursor.packet span.start span.stop),
        cursor.readNext.2) := by
  have hpacket := cursor.packet_readNext
  unfold nullBytes
  split
  · next h =>
    rw [h]
    rfl
  · next h =>
    rw [h] at hpacket ⊢
    dsimp only at hpacket ⊢
    rw [hpacket]
    rfl

/-- A value that is NULL or cannot be coerced is the default, and only a failed coercion is
remembered. -/
theorem nullValue_apply (α : Type) [FromText α] (cursor : Cursor σ) :
    cursor.nullValue α =
      match cursor.readNext.1.map fun span ↦ slice cursor.packet span.start span.stop with
      | none => ((default, true), cursor.readNext.2)
      | some data =>
        match (FromText.fromText data : Except Error α) with
        | .ok value => ((value, false), cursor.readNext.2)
        | .error error => ((default, false), { cursor.readNext.2 with valueError := some error }) := by
  have hpacket := cursor.packet_readNext
  unfold nullValue
  split
  · next h =>
    rw [h]
    rfl
  · next h =>
    rw [h] at hpacket ⊢
    dsimp only at hpacket ⊢
    rw [hpacket]
    rfl

inductive Reads : Cursor σ → Cursor σ → Prop
  | nullBytes (cursor : Cursor σ) : Reads cursor cursor.nullBytes.2
  | bytes (cursor : Cursor σ) : Reads cursor cursor.bytes.2
  | nullValue (α : Type) [FromText α] (cursor : Cursor σ) : Reads cursor (cursor.nullValue α).2
  | value (α : Type) [FromText α] (cursor : Cursor σ) : Reads cursor (cursor.value α).2

/-- The accessors differ in what they remember of a failure. -/
theorem Reads.eq_readNext {cursor cursor' : Cursor σ} (h : cursor.Reads cursor') :
    ∃ valueError, cursor' = { cursor.readNext.2 with valueError } := by
  have hbytes : cursor.nullBytes.2 = cursor.readNext.2 := by rw [nullBytes_apply]
  have hvalue (α : Type) [FromText α] :
      ∃ valueError, (cursor.nullValue α).2 = { cursor.readNext.2 with valueError } := by
    rw [nullValue_apply]
    split
    · exact ⟨_, rfl⟩
    · split <;> exact ⟨_, rfl⟩
  cases h with
  | nullBytes | bytes => exact ⟨_, hbytes⟩
  | nullValue α | value α => exact hvalue α

section Reads

variable {cursor cursor' : Cursor σ}

theorem Reads.exists_eq (h : cursor.Reads cursor') :
    ∃ offset readColumns valueError sightings,
      cursor' = { cursor with offset, readColumns, valueError, sightings } := by
  obtain ⟨_, rfl⟩ := h.eq_readNext
  obtain ⟨_, _, _, _, hnext⟩ := cursor.exists_readNext
  rw [hnext]
  exact ⟨_, _, _, _, rfl⟩

theorem Reads.stream_eq (h : cursor.Reads cursor') : cursor'.stream = cursor.stream := by
  obtain ⟨_, _, _, _, rfl⟩ := h.exists_eq
  rfl

theorem Reads.exhausted_eq (h : cursor.Reads cursor') : cursor'.exhausted = cursor.exhausted := by
  obtain ⟨_, _, _, _, rfl⟩ := h.exists_eq
  rfl

theorem Reads.readError_eq (h : cursor.Reads cursor') : cursor'.readError = cursor.readError := by
  obtain ⟨_, _, _, _, rfl⟩ := h.exists_eq
  rfl

end Reads

theorem stream_nextRow (cursor : Cursor σ) :
    cursor.nextRow.2.stream = cursor.stream ∨
      cursor.nextRow.2.stream = (RowStream.next cursor.stream).2 := by
  unfold nextRow
  split
  · exact .inl rfl
  · dsimp only
    split <;> exact .inr rfl

def readValues : Nat → Cursor σ → List (Bytes × Bool) × Cursor σ
  | 0, cursor => ([], cursor)
  | count + 1, cursor =>
    let (value, cursor) := cursor.nullBytes
    let (values, cursor) := cursor.readValues count
    (value :: values, cursor)

theorem nullBytes_of_readValue {cursor : Cursor σ} {span : Option Row.Span} {offset : Nat}
    (hcolumn : cursor.readColumns < cursor.columns.length)
    (hread : Row.readValue cursor.packet cursor.offset = .ok (span, offset)) :
    ∃ next, cursor.nullBytes =
        (asBytes (span.map fun span ↦ slice cursor.packet span.start span.stop), next) ∧
      next.offset = offset ∧ next.readColumns = cursor.readColumns + 1 ∧ cursor.SameRow next := by
  have hnext := readNext_of_ok (List.getElem?_eq_getElem hcolumn) hread
  rw [nullBytes_apply, hnext]
  exact ⟨_, rfl, rfl, rfl, rfl, rfl, rfl, rfl, rfl⟩

theorem readValues_encode {cursor : Cursor σ} {front : Bytes} {values : List (Option Bytes)}
    (hpacket : cursor.packet = front ++ Row.encode values) (hoffset : cursor.offset = front.length)
    (hcolumns : cursor.columns.length = cursor.readColumns + values.length)
    (hvalues : Row.Storable values) :
    ∃ next, cursor.readValues values.length = (values.map asBytes, next) ∧ cursor.SameRow next := by
  induction values generalizing cursor front with
  | nil => exact ⟨cursor, rfl, .refl cursor⟩
  | cons value values ih =>
    rw [Row.encode, List.flatMap_cons] at hpacket
    rw [List.length_cons] at hcolumns
    obtain ⟨span, hread, hvalue⟩ := Row.exists_readValue_encodeValue front (Row.encode values)
      fun data hdata ↦ hvalues data (hdata ▸ List.mem_cons_self ..)
    rw [Row.encode, ← hpacket, ← hoffset] at hread
    rw [Row.encode, ← hpacket] at hvalue
    obtain ⟨next, hnull, hnextOffset, hnextColumns, hsame⟩ :=
      nullBytes_of_readValue (by omega) hread
    rw [hvalue] at hnull
    have hstill : next.packet = front ++ Row.encodeValue value ++ Row.encode values := by
      rw [hsame.packet_eq, hpacket, List.append_assoc]
      rfl
    have hbehind : next.offset = (front ++ Row.encodeValue value).length := by
      rw [hnextOffset, hoffset, List.length_append]
    have hleft : next.columns.length = next.readColumns + values.length := by
      rw [columns, hsame.stream_eq, ← columns, hnextColumns]
      omega
    obtain ⟨last, hrest, hlast⟩ := ih hstill hbehind hleft fun data hdata ↦
      hvalues data (.tail value hdata)
    refine ⟨last, ?_, hsame.trans hlast⟩
    rw [List.length_cons, readValues, hnull]
    simp only [hrest, List.map_cons]

end SqlClient.Cursor
