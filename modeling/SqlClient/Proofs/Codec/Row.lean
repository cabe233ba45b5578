import SqlClient.Proofs.Codec.RoundTrip
import SqlClient.Proofs.Discard.Phase
import SqlClient.Row

namespace SqlClient.Row

open Response

def encodeValue : Option Bytes → Bytes
  | none => [nullMarker]
  | some data => Encoder.lenencBytes data

def encode (values : List (Option Bytes)) : Bytes :=
  values.flatMap encodeValue

/-- The values are short enough for memory. -/
def Storable (values : List (Option Bytes)) : Prop :=
  ∀ data, some data ∈ values → data.length < UInt64.size

/-- The first byte of a number tells how long it is. -/
theorem exists_cons_lenencInt (value : UInt64) :
    ∃ first rest, Encoder.lenencInt value = first :: rest ∧ first ≠ nullMarker ∧
      first ≠ errorHeader ∧ (first = eofHeader → 0x1000000 ≤ value.toNat) := by
  unfold Encoder.lenencInt
  dsimp only
  split
  · next h =>
    have hbyte : (UInt8.ofNat value.toNat).toNat = value.toNat := by
      rw [UInt8.toNat_ofNat']
      omega
    have hne (b : UInt8) (hb : 251 ≤ b.toNat) : UInt8.ofNat value.toNat ≠ b := by
      rintro rfl
      omega
    exact ⟨_, [], rfl, hne nullMarker (by decide), hne errorHeader (by decide),
      fun heof ↦ absurd heof (hne eofHeader (by decide))⟩
  split
  · exact ⟨_, _, rfl, by decide, by decide, fun heof ↦ absurd heof (by decide)⟩
  split
  · exact ⟨_, _, rfl, by decide, by decide, fun heof ↦ absurd heof (by decide)⟩
  · next h => exact ⟨_, _, rfl, by decide, by decide, fun _ ↦ Nat.le_of_not_lt h⟩

/-- A row starts with the byte of a terminator only if it is too long for one. -/
theorem isRow_encode {values : List (Option Bytes)} (h : Storable values) :
    isRow (encode values) := by
  rcases values with _ | ⟨_ | data, values⟩
  · rfl
  · rfl
  · have hdata := h data (List.mem_cons_self ..)
    obtain ⟨first, rest, hfirst, -, herror, hlong⟩ :=
      exists_cons_lenencInt (UInt64.ofNat data.length)
    rw [UInt64.toNat_ofNat_of_lt' hdata] at hlong
    rw [encode, List.flatMap_cons, encodeValue, Encoder.lenencBytes, hfirst, isRow_eq_true_iff]
    refine ⟨isError_eq_false_of_head? rfl herror, ?_⟩
    by_cases heof : first = eofHeader
    · have hlength := hlong heof
      simp [isTerminator, Packet.maxPayload]
      omega
    · simp [isTerminator, heof]

theorem readValue_apply (row : Bytes) (offset : Nat) :
    readValue row offset =
      if row.length < offset then .error .unexpectedEof
      else if (row.drop offset).head? = some nullMarker then .ok (none, offset + 1)
      else match Decoder.lenencInt (row.drop offset) with
        | .error error => .error error
        | .ok (length, rest) =>
          if rest.length < length.toNat then .error .unexpectedEof
          else .ok (some ⟨row.length - rest.length, row.length - rest.length + length.toNat⟩,
            row.length - rest.length + length.toNat) := by
  unfold readValue
  by_cases hshort : row.length < offset
  · simp only [hshort, if_true]
    rfl
  by_cases hnull : (row.drop offset).head? = some nullMarker
  · simp only [hshort, hnull, if_true, if_false]
    rfl
  simp only [hshort, hnull, if_false]
  cases Decoder.lenencInt (row.drop offset) with
  | error error => rfl
  | ok taken =>
    obtain ⟨length, rest⟩ := taken
    by_cases hlength : rest.length < length.toNat
    · simp only [hlength, if_true]
      change (if rest.length < length.toNat then _ else _) = _
      rw [if_pos hlength]
      rfl
    · simp only [hlength, if_false]
      change (if rest.length < length.toNat then _ else _) = _
      rw [if_neg hlength]
      rfl

theorem readValue_data (front rest : Bytes) {data : Bytes} (h : data.length < UInt64.size) :
    let start := (front ++ Encoder.lenencInt (UInt64.ofNat data.length)).length
    readValue (front ++ (encodeValue (some data) ++ rest)) front.length =
      .ok (some ⟨start, start + data.length⟩, start + data.length) := by
  intro start
  obtain ⟨first, tail, hfirst, hnull, -⟩ := exists_cons_lenencInt (UInt64.ofNat data.length)
  have hread := Decoder.lenencInt_encode (data ++ rest) (UInt64.ofNat data.length)
  have hlength : (UInt64.ofNat data.length).toNat = data.length := UInt64.toNat_ofNat_of_lt' h
  rw [encodeValue, Encoder.lenencBytes, List.append_assoc]
  have hstart : (front ++ (Encoder.lenencInt (UInt64.ofNat data.length) ++ (data ++ rest))).length -
      (data ++ rest).length = start := by
    simp only [start, List.length_append]
    omega
  have hfront : ¬ (front ++ (Encoder.lenencInt (UInt64.ofNat data.length) ++
      (data ++ rest))).length < front.length := by
    rw [List.length_append]
    omega
  have hhead : (Encoder.lenencInt (UInt64.ofNat data.length) ++ (data ++ rest)).head? ≠
      some nullMarker := by
    rw [hfirst]
    simpa using hnull
  have hlong : ¬ (data ++ rest).length < data.length := by
    rw [List.length_append]
    omega
  rw [readValue_apply, if_neg hfront, List.drop_left, if_neg hhead, hread]
  simp only [hlength, if_neg hlong, hstart]

/-- A value is read where the one before it ends. -/
theorem exists_readValue_encodeValue (front rest : Bytes) {value : Option Bytes}
    (h : ∀ data, value = some data → data.length < UInt64.size) :
    ∃ span, readValue (front ++ (encodeValue value ++ rest)) front.length =
        .ok (span, front.length + (encodeValue value).length) ∧
      span.map (fun span ↦ slice (front ++ (encodeValue value ++ rest)) span.start span.stop) =
        value := by
  cases value with
  | none =>
    have hfront : ¬ (front ++ (encodeValue none ++ rest)).length < front.length := by
      rw [List.length_append]
      omega
    refine ⟨none, ?_, rfl⟩
    rw [readValue_apply, if_neg hfront, List.drop_left]
    rfl
  | some data =>
    have hread := readValue_data front rest (h data rfl)
    have hend : (front ++ Encoder.lenencInt (UInt64.ofNat data.length)).length + data.length =
        front.length + (encodeValue (some data)).length := by
      simp only [encodeValue, Encoder.lenencBytes, List.length_append]
      omega
    refine ⟨_, by rw [hread, hend], ?_⟩
    have hsplit : front ++ (encodeValue (some data) ++ rest) =
        front ++ Encoder.lenencInt (UInt64.ofNat data.length) ++ (data ++ rest) := by
      simp only [encodeValue, Encoder.lenencBytes, List.append_assoc]
    rw [Option.map_some, hsplit, slice, List.drop_left, ← hend, Nat.add_sub_cancel_left,
      List.take_left]

/-- The values of a row from left to right, `count` at most. One that cannot be decoded takes all
behind it along. -/
def decode : Nat → Bytes → List (Option Bytes)
  | 0, _ => []
  | count + 1, row =>
    if row.head? = some nullMarker then none :: decode count row.tail
    else match Decoder.lenencString row with
      | .ok (data, rest) => some data :: decode count rest
      | .error _ => []

def outcomes : Nat → Bytes → List (Except Error (Option Bytes))
  | 0, _ => []
  | count + 1, row =>
    if row.head? = some nullMarker then .ok none :: outcomes count row.tail
    else match Decoder.lenencString row with
      | .ok (data, rest) => .ok (some data) :: outcomes count rest
      | .error error => [.error error]

theorem decode_eq_filterMap (count : Nat) (row : Bytes) :
    decode count row = (outcomes count row).filterMap Except.toOption := by
  induction count generalizing row with
  | zero => rfl
  | succ count ih =>
    rw [decode, outcomes]
    split
    · rw [ih]
      rfl
    · cases Decoder.lenencString row with
      | error error => rfl
      | ok taken =>
        dsimp only
        rw [ih]
        rfl

theorem length_outcomes_le (count : Nat) (row : Bytes) : (outcomes count row).length ≤ count := by
  induction count generalizing row with
  | zero => exact Nat.le_refl 0
  | succ count ih =>
    rw [outcomes]
    split
    · exact Nat.succ_le_succ (ih _)
    · split
      · exact Nat.succ_le_succ (ih _)
      · exact Nat.succ_le_succ (Nat.zero_le count)

/-- An error is the last thing that reading comes to. -/
theorem length_outcomes_of_error {count index : Nat} {row : Bytes} {error : Error}
    (h : (outcomes count row)[index]? = some (.error error)) :
    (outcomes count row).length = index + 1 := by
  induction count generalizing row index with
  | zero => cases h
  | succ count ih =>
    rw [outcomes] at h ⊢
    split at h
    · cases index with
      | zero => cases h
      | succ index =>
        rw [if_pos ‹_›, List.length_cons, ih (by exact h)]
    · rw [if_neg ‹_›]
      split at h
      · cases index with
        | zero => cases h
        | succ index =>
          rw [List.length_cons, ih (by exact h)]
      · cases index with
        | zero => rfl
        | succ index => cases h

theorem fromPacket_of_mem_outcomes {count : Nat} {row : Bytes} {error : Error}
    (h : .error error ∈ outcomes count row) : FromPacket error := by
  induction count generalizing row with
  | zero => cases h
  | succ count ih =>
    rw [outcomes] at h
    split at h
    · cases h with
      | tail _ h => exact ih h
    · cases hstring : Decoder.lenencString row with
      | ok taken =>
        rw [hstring] at h
        cases h with
        | tail _ h => exact ih h
      | error failure =>
        rw [hstring] at h
        cases List.mem_singleton.mp h
        rcases Decoder.plain_lenencString hstring with rfl | rfl
        · exact .unexpectedEof
        · exact .invalidPacket

theorem readValue_null {row : Bytes} {offset : Nat}
    (h : (row.drop offset).head? = some nullMarker) :
    readValue row offset = .ok (none, offset + 1) := by
  have hin : ¬ row.length < offset := by
    intro hout
    rw [List.drop_eq_nil_of_le (Nat.le_of_lt hout)] at h
    cases h
  rw [readValue_apply, if_neg hin, if_pos h]

/-- A value that is not NULL is the string at its offset, and the next one stands behind it. -/
theorem readValue_of_lenencString {row data rest : Bytes} {offset : Nat}
    (hnull : (row.drop offset).head? ≠ some nullMarker)
    (h : Decoder.lenencString (row.drop offset) = .ok (data, rest)) :
    ∃ span, readValue row offset = .ok (some span, span.stop) ∧
      span.start ≤ span.stop ∧ span.stop ≤ row.length ∧
      slice row span.start span.stop = data ∧ row.drop span.stop = rest := by
  obtain ⟨length, behind, hlength, htake⟩ := Decoder.bind_eq_ok.mp h
  have hin : ¬ row.length < offset := by
    intro hout
    rw [List.drop_eq_nil_of_le (Nat.le_of_lt hout)] at hlength
    cases hlength
  obtain ⟨rfl, hcount⟩ := Decoder.take_eq_ok.mp htake
  have hlong : ¬ (data ++ rest).length < length.toNat := by
    rw [List.length_append]
    omega
  have hsuffix : data ++ rest <:+ row :=
    (Decoder.exact_lenencInt.suffix hlength).trans (List.drop_suffix offset row)
  obtain ⟨front, rfl⟩ := hsuffix
  have hstart : (front ++ (data ++ rest)).length - (data ++ rest).length = front.length := by
    simp only [List.length_append]
    omega
  refine ⟨⟨front.length, front.length + length.toNat⟩, ?_, ?_, ?_, ?_, ?_⟩
  · rw [readValue_apply, if_neg hin, if_neg hnull, hlength]
    simp only [if_neg hlong, hstart]
  · exact Nat.le_add_right ..
  · simp only [List.length_append]
    omega
  · rw [slice, List.drop_left, Nat.add_sub_cancel_left, ← hcount, List.take_left]
  · rw [← hcount, ← List.length_append, ← List.append_assoc, List.drop_left]

theorem readValue_of_malformed {row : Bytes} {offset : Nat} {error : Error}
    (hnull : (row.drop offset).head? ≠ some nullMarker)
    (h : Decoder.lenencString (row.drop offset) = .error error) :
    readValue row offset = .error error := by
  rw [readValue_apply, if_neg hnull]
  by_cases hout : row.length < offset
  · rw [List.drop_eq_nil_of_le (Nat.le_of_lt hout)] at h
    cases h
    rw [if_pos hout]
  rw [if_neg hout]
  rw [Decoder.lenencString, Decoder.bind_apply] at h
  cases hlength : Decoder.lenencInt (row.drop offset) with
  | error failure =>
    rw [hlength] at h
    cases h
    rfl
  | ok taken =>
    obtain ⟨length, behind⟩ := taken
    rw [hlength] at h
    obtain ⟨hshort, rfl⟩ := Decoder.take_eq_error.mp h
    dsimp only
    rw [if_pos hshort]

theorem outcomes_drop (row : Bytes) (offset count : Nat) :
    outcomes (count + 1) (row.drop offset) = match readValue row offset with
      | .ok (span, next) =>
        .ok (span.map fun span ↦ slice row span.start span.stop) :: outcomes count (row.drop next)
      | .error error => [.error error] := by
  rw [outcomes]
  by_cases hnull : (row.drop offset).head? = some nullMarker
  · rw [if_pos hnull, readValue_null hnull]
    simp only [List.tail_drop, Option.map_none]
  rw [if_neg hnull]
  cases hstring : Decoder.lenencString (row.drop offset) with
  | error error => rw [readValue_of_malformed hnull hstring]
  | ok taken =>
    obtain ⟨data, rest⟩ := taken
    obtain ⟨span, hread, -, -, hdata, hrest⟩ := readValue_of_lenencString hnull hstring
    rw [hread]
    simp only [Option.map_some, hdata, hrest]

/-- Reading on at the offset of the next value is decoding from the front. -/
theorem decode_drop (row : Bytes) (offset count : Nat) :
    decode (count + 1) (row.drop offset) = match readValue row offset with
      | .ok (span, next) =>
        span.map (fun span ↦ slice row span.start span.stop) :: decode count (row.drop next)
      | .error _ => [] := by
  rw [decode_eq_filterMap, outcomes_drop]
  cases readValue row offset with
  | error error => rfl
  | ok taken =>
    dsimp only
    rw [decode_eq_filterMap]
    rfl

/-- A value lies within its row. -/
theorem span_of_readValue {row : Bytes} {offset next : Nat} {span : Span}
    (h : readValue row offset = .ok (some span, next)) :
    span.start ≤ span.stop ∧ span.stop ≤ row.length := by
  have hnull : (row.drop offset).head? ≠ some nullMarker := by
    intro hnull
    cases (readValue_null hnull).symm.trans h
  cases hstring : Decoder.lenencString (row.drop offset) with
  | error error => cases (readValue_of_malformed hnull hstring).symm.trans h
  | ok taken =>
    obtain ⟨span', hread, hstart, hstop, -⟩ := readValue_of_lenencString hnull hstring
    cases hread.symm.trans h
    exact ⟨hstart, hstop⟩

end SqlClient.Row
