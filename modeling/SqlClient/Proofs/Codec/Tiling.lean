import SqlClient.Proofs.Codec.Row
import SqlClient.Proofs.Codec.Shortest

namespace SqlClient.Row

variable {row : Bytes} {offset next : Nat}

/-- The reads from an offset on, each at the offset that the one before it came to: the values, with
the offset behind each, and the error of the last read. -/
inductive Reads (row : Bytes) : Nat → List (Option Span × Nat) → Error → Prop
  | stop {offset : Nat} {error : Error} :
      readValue row offset = .error error → Reads row offset [] error
  | read {offset next : Nat} {value : Option Span} {taken : List (Option Span × Nat)}
      {error : Error} :
      readValue row offset = .ok (value, next) → Reads row next taken error →
        Reads row offset ((value, next) :: taken) error

theorem head?_of_lenencString {bytes data rest : Bytes}
    (h : Decoder.lenencString bytes = .ok (data, rest)) : bytes.head? ≠ some nullMarker := by
  intro hnull
  have hinvalid := Decoder.lenencString_eq_invalidPacket_iff.mpr
    (Decoder.lenencInt_eq_invalidPacket_iff.mpr (.inl hnull))
  cases h.symm.trans hinvalid

theorem readValue_of_length_le (h : row.length ≤ offset) :
    readValue row offset = .error .unexpectedEof := by
  have hdrop : row.drop offset = [] := List.drop_eq_nil_of_le h
  apply readValue_of_malformed
  · simp [hdrop]
  · rw [hdrop]
    rfl

/-- A value lies between its offset, where its length stands, and the offset behind it. -/
theorem bounds_of_readValue {value : Option Span} (h : readValue row offset = .ok (value, next)) :
    offset < next ∧ next ≤ row.length ∧
      ∀ span, value = some span → offset < span.start ∧ span.start ≤ span.stop ∧ span.stop = next := by
  have hin : offset < row.length := by
    apply Nat.lt_of_not_le
    intro hout
    cases (readValue_of_length_le hout).symm.trans h
  rw [readValue_apply, if_neg (Nat.not_lt_of_lt hin)] at h
  split at h
  · cases h
    exact ⟨Nat.lt_succ_self offset, hin, by simp⟩
  split at h
  · cases h
  next length rest hlength =>
  split at h
  · cases h
  next hlong =>
  obtain ⟨bytes, hbytes, hreads⟩ := Decoder.exact_lenencInt hlength
  have hpos : 0 < bytes.length := List.length_pos_iff.mpr (hreads.ne_nil rfl)
  have hcount : row.length - offset = bytes.length + rest.length := by
    rw [← List.length_drop, hbytes, List.length_append]
  cases h
  refine ⟨by omega, by omega, ?_⟩
  rintro span ⟨⟩
  exact ⟨by simp only; omega, Nat.le_add_right .., rfl⟩

theorem exists_reads (row : Bytes) (offset : Nat) : ∃ taken error, Reads row offset taken error := by
  induction hleft : row.length - offset using Nat.strongRecOn generalizing offset with
  | ind left ih =>
    cases hread : readValue row offset with
    | error error => exact ⟨[], error, .stop hread⟩
    | ok value =>
      obtain ⟨span, next⟩ := value
      obtain ⟨hlt, hle, -⟩ := bounds_of_readValue hread
      obtain ⟨taken, error, hreads⟩ := ih (row.length - next) (by omega) next rfl
      exact ⟨(span, next) :: taken, error, .read hread hreads⟩

namespace Reads

variable {taken : List (Option Span × Nat)} {error : Error}

theorem length_le (h : Reads row offset taken error) : taken.length ≤ row.length - offset := by
  induction h with
  | stop => exact Nat.zero_le _
  | read hread _ ih =>
    obtain ⟨hlt, hle, -⟩ := bounds_of_readValue hread
    rw [List.length_cons]
    omega

theorem lt_of_mem (h : Reads row offset taken error) {value : Option Span}
    (hmem : (value, next) ∈ taken) :
    offset < next ∧ ∀ span, value = some span → offset < span.start := by
  induction h with
  | stop => cases hmem
  | read hread _ ih =>
    obtain ⟨hlt, -, hspan⟩ := bounds_of_readValue hread
    cases hmem with
    | head => exact ⟨hlt, fun span hvalue ↦ (hspan span hvalue).1⟩
    | tail _ hmem =>
      obtain ⟨hnext, hbehind⟩ := ih hmem
      exact ⟨Nat.lt_trans hlt hnext, fun span hvalue ↦ Nat.lt_trans hlt (hbehind span hvalue)⟩

theorem pairwise_offsets (h : Reads row offset taken error) :
    (offset :: taken.map Prod.snd).Pairwise (· < ·) := by
  induction h with
  | stop => exact List.pairwise_singleton _ _
  | read hread hreads ih =>
    refine List.pairwise_cons.mpr ⟨?_, ih⟩
    intro behind hmem
    obtain ⟨⟨value, behind⟩, htaken, rfl⟩ := List.mem_map.mp hmem
    exact ((Reads.read hread hreads).lt_of_mem htaken).1

theorem pairwise_spans (h : Reads row offset taken error) :
    (taken.filterMap Prod.fst).Pairwise fun span span' ↦ span.stop < span'.start := by
  induction h with
  | stop => exact List.Pairwise.nil
  | @read offset next value taken error hread hreads ih =>
    cases value with
    | none => exact ih
    | some span =>
      refine List.pairwise_cons.mpr ⟨?_, ih⟩
      intro span' hmem
      obtain ⟨⟨value, behind⟩, htaken, rfl⟩ := List.mem_filterMap.mp hmem
      have hstop : span.stop = next := ((bounds_of_readValue hread).2.2 span rfl).2.2
      rw [hstop]
      exact (hreads.lt_of_mem htaken).2 span' rfl

end Reads

/-- Reading from value to value leaves no value out and reads nothing twice, and it stops at an
error, at the end of the row at the latest; each value is the one that a decoder finds there. -/
theorem tiled (row : Bytes) :
    (∀ offset value next, readValue row offset = .ok (value, next) →
      offset < next ∧ next ≤ row.length ∧ ∀ span, value = some span →
        offset < span.start ∧ span.start ≤ span.stop ∧ span.stop = next) ∧
    (∃ taken error, Reads row 0 taken error) ∧
    (∀ taken error, Reads row 0 taken error →
      (0 :: taken.map Prod.snd).Pairwise (· < ·) ∧ taken.length ≤ row.length ∧
        (taken.filterMap Prod.fst).Pairwise fun span span' ↦ span.stop < span'.start) ∧
    (∀ offset, row.length ≤ offset → readValue row offset = .error .unexpectedEof) ∧
    ∀ offset,
      ((∃ taken, readValue row offset = .ok taken) ↔
        row[offset]? = some nullMarker ∨
          ∃ taken, Decoder.lenencString (row.drop offset) = .ok taken) ∧
      (row[offset]? = some nullMarker → readValue row offset = .ok (none, offset + 1)) ∧
      ∀ data rest, Decoder.lenencString (row.drop offset) = .ok (data, rest) →
        ∃ span, readValue row offset = .ok (some span, span.stop) ∧
          slice row span.start span.stop = data ∧ row.drop span.stop = rest := by
  refine ⟨fun _ _ _ ↦ bounds_of_readValue, exists_reads row 0, ?_, fun _ ↦ readValue_of_length_le, ?_⟩
  · intro taken error h
    exact ⟨h.pairwise_offsets, h.length_le, h.pairwise_spans⟩
  intro offset
  have hnull : row[offset]? = some nullMarker → readValue row offset = .ok (none, offset + 1) := by
    intro hnull
    exact readValue_null (List.head?_drop.trans hnull)
  have hstring : ∀ data rest, Decoder.lenencString (row.drop offset) = .ok (data, rest) →
      ∃ span, readValue row offset = .ok (some span, span.stop) ∧
        slice row span.start span.stop = data ∧ row.drop span.stop = rest := by
    intro data rest h
    obtain ⟨span, hread, -, -, hdata, hrest⟩ := readValue_of_lenencString (head?_of_lenencString h) h
    exact ⟨span, hread, hdata, hrest⟩
  refine ⟨⟨?_, ?_⟩, hnull, hstring⟩
  · rintro ⟨taken, hread⟩
    by_cases hmarker : row[offset]? = some nullMarker
    · exact .inl hmarker
    cases h : Decoder.lenencString (row.drop offset) with
    | ok taken => exact .inr ⟨taken, rfl⟩
    | error error =>
      rw [← List.head?_drop] at hmarker
      cases (readValue_of_malformed hmarker h).symm.trans hread
  · rintro (hmarker | ⟨⟨data, rest⟩, h⟩)
    · exact ⟨_, hnull hmarker⟩
    · obtain ⟨span, hread, -⟩ := hstring data rest h
      exact ⟨_, hread⟩

/-- A value, NULL, and a value of which all but a byte is missing. -/
theorem tiled_truncated :
    Reads [1, 0x61, 0xFB, 5, 0x62] 0 [(some ⟨1, 2⟩, 2), (none, 3)] .unexpectedEof ∧
      [0, 2, 3].Pairwise (· < ·) ∧ [(some (⟨1, 2⟩ : Span), 2), (none, 3)].length ≤ 5 := by
  have hreads : Reads [1, 0x61, 0xFB, 5, 0x62] 0 [(some ⟨1, 2⟩, 2), (none, 3)] .unexpectedEof :=
    .read rfl (.read rfl (.stop rfl))
  obtain ⟨-, -, hordered, -⟩ := tiled [1, 0x61, 0xFB, 5, 0x62]
  obtain ⟨hoffsets, hlength, -⟩ := hordered _ _ hreads
  exact ⟨hreads, hoffsets, hlength⟩

end SqlClient.Row
