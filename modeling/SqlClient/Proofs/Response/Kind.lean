import SqlClient.Column
import SqlClient.Discard
import SqlClient.Proofs.Codec.Decoder

namespace SqlClient.Response

open Decoder

variable {packet : Bytes}

/-- A decoder that checks the first byte succeeds on no other. -/
theorem head?_of_check {α : Type} {header : UInt8} {f : UInt8 → PUnit → Decoder α} {a : α}
    (h : (byte >>= fun first ↦
      if first ≠ header then throw .invalidPacket >>= f first else f first ⟨⟩).decode packet = .ok a) :
    packet.head? = some header := by
  obtain ⟨rest, hdecode⟩ := decode_eq_ok.mp h
  obtain ⟨first, packet', hfirst, hrest⟩ := bind_eq_ok.mp hdecode
  cases packet with
  | nil => cases hfirst
  | cons b packet =>
    cases hfirst
    by_cases hb : first = header
    · simp [hb]
    · rw [if_pos hb, bind_apply, throw_apply] at hrest
      cases hrest

theorem isError_of_serverError {report : ServerError}
    (h : ServerError.decode packet = .ok report) : isError packet := by
  have hhead : packet.head? = some errorHeader := head?_of_check h
  simp [isError, hhead]

theorem ofResponse_of_serverError {report : ServerError}
    (h : ServerError.decode packet = .ok report) : Error.ofResponse packet = .server report := by
  rw [Error.ofResponse, h]

theorem head?_of_eof {eof : EofResponse} (h : EofResponse.decode packet = .ok eof) :
    packet.head? = some eofHeader :=
  head?_of_check h

theorem isError_eq_false_of_head? {first : UInt8} (h : packet.head? = some first)
    (hne : first ≠ errorHeader) : isError packet = false := by
  simp [isError, h, hne]

theorem isError_eq_false_of_eof {eof : EofResponse} (h : EofResponse.decode packet = .ok eof) :
    isError packet = false :=
  isError_eq_false_of_head? (head?_of_eof h) (by decide)

theorem isError_eq_false_of_isTerminator (h : isTerminator packet) : isError packet = false := by
  simp only [isTerminator, Bool.and_eq_true, decide_eq_true_eq] at h
  exact isError_eq_false_of_head? h.1 (by decide)

/-- Neither a number nor a string starts with the header of an error. -/
theorem isError_eq_false_of_lenencInt {count : UInt64} {rest : Bytes}
    (h : lenencInt packet = .ok (count, rest)) : isError packet = false := by
  cases packet with
  | nil => cases h
  | cons b packet =>
    by_cases hb : b = errorHeader
    · subst hb; cases h
    · simp [isError, hb]

theorem isError_eq_false_of_column {column : Column} (h : Column.decode packet = .ok column) :
    isError packet = false := by
  obtain ⟨rest, h⟩ := decode_eq_ok.mp h
  obtain ⟨catalog, rest, hcatalog, -⟩ := bind_eq_ok.mp h
  obtain ⟨length, rest, hlength, -⟩ := bind_eq_ok.mp hcatalog
  exact isError_eq_false_of_lenencInt hlength

/-- A number starts neither like an error nor like a request for a file. -/
theorem head?_of_lenencInt {count : UInt64} (h : lenencInt.decode packet = .ok count) :
    ∃ first, packet.head? = some first ∧ first ≠ errorHeader ∧ first ≠ localInfileHeader := by
  obtain ⟨rest, h⟩ := decode_eq_ok.mp h
  cases packet with
  | nil => cases h
  | cons first packet => refine ⟨first, rfl, ?_, ?_⟩ <;> rintro rfl <;> cases h

theorem head?_ne_of_lenencInt {count : UInt64} (h : lenencInt.decode packet = .ok count) :
    packet.head? ≠ some localInfileHeader := by
  obtain ⟨first, hfirst, -, hlocal⟩ := head?_of_lenencInt h
  simpa [hfirst] using hlocal

/-- Zero is also the header of an OK packet. -/
theorem head?_ne_of_count {count : UInt64} (h : lenencInt.decode packet = .ok count)
    (hpos : 1 ≤ count.toNat) : packet.head? ≠ some okHeader := by
  intro hok
  cases packet with
  | nil => cases hok
  | cons first packet =>
    cases hok
    cases h
    simp [okHeader] at hpos

theorem header_of_lenencInt {count : UInt64} (h : lenencInt.decode packet = .ok count)
    (hok : packet.head? ≠ some okHeader) : Header.decode packet = .ok (.resultSet count.toNat) := by
  obtain ⟨first, hfirst, herror, hlocal⟩ := head?_of_lenencInt h
  cases packet with
  | nil => cases hfirst
  | cons b packet =>
    cases hfirst
    have hne : first ≠ okHeader := by simpa using hok
    simp [Header.decode, hne, herror, hlocal, h, Except.map]

/-- An eight-byte number is too long for an EOF packet. -/
theorem kind_of_lenencInt {count : UInt64} (h : lenencInt.decode packet = .ok count)
    (hok : packet.head? ≠ some okHeader) : kind packet = .ok .resultSet := by
  obtain ⟨first, hfirst, herror, -⟩ := head?_of_lenencInt h
  cases packet with
  | nil => cases hfirst
  | cons b packet =>
    cases hfirst
    have hne : first ≠ okHeader := by simpa using hok
    have heof : ¬ (first = eofHeader ∧ (packet.take 8).length < 8) := by
      rintro ⟨rfl, hlength⟩
      obtain ⟨rest, h⟩ := decode_eq_ok.mp h
      obtain ⟨number, rest', hnumber, -⟩ := bind_eq_ok.mp (show uint64 packet = _ from h)
      obtain ⟨bytes, rest'', hbytes, -⟩ := bind_eq_ok.mp hnumber
      obtain ⟨rfl, hcount⟩ := take_eq_ok.mp hbytes
      simp only [List.length_take, List.length_append] at hlength
      omega
    simp only [kind, herror, heof, hne, if_false]

theorem header_of_count {count : UInt64} (h : lenencInt.decode packet = .ok count)
    (hpos : 1 ≤ count.toNat) : Header.decode packet = .ok (.resultSet count.toNat) :=
  header_of_lenencInt h (head?_ne_of_count h hpos)

theorem kind_of_count {count : UInt64} (h : lenencInt.decode packet = .ok count)
    (hpos : 1 ≤ count.toNat) : kind packet = .ok .resultSet :=
  kind_of_lenencInt h (head?_ne_of_count h hpos)

theorem kind_eq_error {error : Error} (h : kind packet = .error error) : error = .invalidPacket := by
  cases packet with
  | nil =>
    cases h
    rfl
  | cons first packet =>
    rw [kind] at h
    split at h
    · cases h
    split at h
    · cases h
    by_cases hok : first = okHeader <;> simp [hok] at h

theorem header_of_ok (h : packet.head? = some okHeader) : Header.decode packet = .ok (.ok packet) := by
  cases packet with
  | nil => cases h
  | cons b packet =>
    cases h
    rfl

theorem kind_of_ok (h : packet.head? = some okHeader) : kind packet = .ok .ok := by
  cases packet with
  | nil => cases h
  | cons b packet =>
    cases h
    rfl

theorem head?_of_kind (h : kind packet = .ok .ok) : packet.head? = some okHeader := by
  cases packet with
  | nil => cases h
  | cons first rest =>
    by_cases hok : first = okHeader
    · rw [hok, List.head?_cons]
    · rw [kind] at h
      split at h
      · cases h
      split at h <;> cases h

theorem isError_of_kind (h : kind packet = .ok .error) : isError packet := by
  cases packet with
  | nil => cases h
  | cons first rest =>
    by_cases herror : first = errorHeader
    · simp [isError, herror]
    · rw [kind, if_neg herror] at h
      split at h
      · cases h
      split at h <;> cases h

theorem header_of_kind {count : UInt64} (hkind : kind packet = .ok .resultSet)
    (hcount : lenencInt.decode packet = .ok count) :
    Header.decode packet = .ok (.resultSet count.toNat) := by
  apply header_of_lenencInt hcount
  intro hok
  rw [kind_of_ok hok] at hkind
  cases hkind

theorem head?_of_header {payload : Bytes} (h : Header.decode packet = .ok (.ok payload)) :
    packet.head? = some okHeader := by
  cases packet with
  | nil => cases h
  | cons first rest =>
    rw [Header.decode] at h
    split at h
    · cases h
    split at h
    · next hok => rw [hok, List.head?_cons]
    split at h
    · cases h
    · cases hcount : lenencInt.decode (first :: rest) <;> rw [hcount] at h <;> cases h

theorem exists_count_of_header {count : Nat} (h : Header.decode packet = .ok (.resultSet count)) :
    ∃ number, lenencInt.decode packet = .ok number ∧ number.toNat = count := by
  cases packet with
  | nil => cases h
  | cons first rest =>
    rw [Header.decode] at h
    split at h
    · cases h
    split at h
    · cases h
    split at h
    · cases h
    · cases hcount : lenencInt.decode (first :: rest) with
      | error error =>
        rw [hcount] at h
        cases h
      | ok number =>
        rw [hcount] at h
        cases h
        exact ⟨number, rfl, rfl⟩

theorem header_of_isError (h : isError packet) :
    Header.decode packet = .error (Error.ofResponse packet) := by
  cases packet with
  | nil => cases h
  | cons b packet =>
    simp only [isError, List.head?_cons, Option.some.injEq, decide_eq_true_eq] at h
    simp [Header.decode, h]

theorem kind_of_isError (h : isError packet) : kind packet = .ok .error := by
  cases packet with
  | nil => cases h
  | cons b packet =>
    simp only [isError, List.head?_cons, Option.some.injEq, decide_eq_true_eq] at h
    simp [kind, h]

theorem header_ne_resultSet (h : packet.head? = some okHeader ∨ packet.head? = some errorHeader)
    (count : Nat) : Header.decode packet ≠ .ok (.resultSet count) := by
  obtain hok | herror := h
  · simp [header_of_ok hok]
  · simp [header_of_isError (show isError packet by simpa [isError] using herror)]

theorem plain_okResponse (caps : Capabilities) : Plain (OkResponse.decoder caps) := by
  refine plain_byte.bind fun header ↦ .check <|
    plain_lenencInt.bind fun _ ↦ plain_lenencInt.bind fun _ ↦
      .bind ?_ fun _ ↦ .bind ?_ fun _ ↦ plain_pure _
  · unfold OkResponse.decodeStatus
    split
    · exact plain_uint16.bind fun _ ↦ plain_uint16.bind fun _ ↦ plain_pure _
    split
    · exact plain_uint16.bind fun _ ↦ plain_pure _
    · exact plain_pure _
  · unfold OkResponse.decodeInfo
    split
    · refine plain_get.bind fun _ ↦ ?_
      split
      · exact plain_pure _
      · exact plain_lenencString
    · exact plain_remaining

theorem plain_eofResponse : Plain EofResponse.decoder :=
  plain_byte.bind fun _ ↦ .check <|
    plain_uint16.bind fun _ ↦ plain_uint16.bind fun _ ↦ plain_pure _

theorem plain_serverError : Plain ServerError.decoder := by
  refine plain_byte.bind fun _ ↦ .check <| plain_uint16.bind fun _ ↦
    .bind ?_ fun _ ↦ plain_remaining.bind fun _ ↦ plain_pure _
  refine plain_get.bind fun _ ↦ ?_
  split
  · exact plain_byte.bind fun _ ↦ plain_take 5
  · exact plain_pure _

theorem plain_column : Plain Column.decoder := by
  refine plain_lenencString.bind fun _ ↦ plain_lenencString.bind fun _ ↦
    plain_lenencString.bind fun _ ↦ plain_lenencString.bind fun _ ↦
    plain_lenencString.bind fun _ ↦ plain_lenencString.bind fun _ ↦ ?_
  exact plain_lenencInt.bind fun _ ↦ plain_uint16.bind fun _ ↦ plain_uint32.bind fun _ ↦
    plain_byte.bind fun _ ↦ plain_uint16.bind fun _ ↦ plain_byte.bind fun _ ↦
    plain_uint16.bind fun _ ↦ plain_pure _

theorem ofResponse_cases (packet : Bytes) :
    (∃ report, ServerError.decode packet = .ok report ∧
      Error.ofResponse packet = .server report) ∨ (Error.ofResponse packet).breaksConnection := by
  cases hdecode : ServerError.decode packet with
  | ok report => exact .inl ⟨report, rfl, ofResponse_of_serverError hdecode⟩
  | error error =>
    rw [Error.ofResponse, hdecode]
    exact .inr (plain_serverError.breaksConnection hdecode)

theorem breaksConnection_of_terminatorStatus {caps : Capabilities} {error : Error}
    (h : terminatorStatus caps packet = .error error) : error.breaksConnection := by
  unfold terminatorStatus at h
  split at h
  · cases hdecode : OkResponse.decode caps packet with
    | ok => rw [hdecode] at h; cases h
    | error =>
      rw [hdecode] at h
      cases h
      exact (plain_okResponse caps).breaksConnection hdecode
  · cases hdecode : EofResponse.decode packet with
    | ok => rw [hdecode] at h; cases h
    | error =>
      rw [hdecode] at h
      cases h
      exact plain_eofResponse.breaksConnection hdecode

theorem header_error_eq {error : Error} (h : Header.decode packet = .error error) :
    error = Error.ofResponse packet ∧ isError packet ∨
      error = .localInfile ∨ error = .unexpectedEof ∨ error = .invalidPacket := by
  cases packet with
  | nil =>
    cases h
    exact .inr (.inr (.inr rfl))
  | cons first rest =>
    rw [Header.decode] at h
    split at h
    · next hfirst =>
      cases h
      exact .inl ⟨rfl, by simp [isError, hfirst]⟩
    split at h
    · cases h
    split at h
    · cases h
      exact .inr (.inl rfl)
    · cases hcount : lenencInt.decode (first :: rest) with
      | ok count =>
        rw [hcount] at h
        cases h
      | error failure =>
        rw [hcount] at h
        cases h
        exact .inr (.inr (plain_lenencInt.error_cases hcount))

theorem header_error_cases {error : Error} (h : Header.decode packet = .error error) :
    error = Error.ofResponse packet ∧ isError packet ∨ error.breaksConnection := by
  refine (header_error_eq h).imp_right ?_
  rintro (rfl | rfl | rfl) <;> rfl

inductive FromPacket : Error → Prop
  | server (report : ServerError) : FromPacket (.server report)
  | unexpectedEof : FromPacket .unexpectedEof
  | invalidPacket : FromPacket .invalidPacket
  | localInfile : FromPacket .localInfile

theorem fromPacket_of_plain {α : Type} {decoder : Decoder α} (h : Plain decoder) {error : Error}
    (hdecode : decoder.decode packet = .error error) : FromPacket error := by
  rcases h.error_cases hdecode with rfl | rfl
  · exact .unexpectedEof
  · exact .invalidPacket

theorem fromPacket_ofResponse (packet : Bytes) : FromPacket (Error.ofResponse packet) := by
  cases hdecode : ServerError.decode packet with
  | ok report =>
    rw [ofResponse_of_serverError hdecode]
    exact .server report
  | error error =>
    rw [Error.ofResponse, hdecode]
    exact fromPacket_of_plain plain_serverError hdecode

theorem fromPacket_of_header {error : Error} (h : Header.decode packet = .error error) :
    FromPacket error := by
  rcases header_error_eq h with ⟨rfl, -⟩ | rfl | rfl | rfl
  · exact fromPacket_ofResponse packet
  · exact .localInfile
  · exact .unexpectedEof
  · exact .invalidPacket

theorem fromPacket_of_terminatorStatus {caps : Capabilities} {error : Error}
    (h : terminatorStatus caps packet = .error error) : FromPacket error := by
  unfold terminatorStatus at h
  split at h
  · cases hdecode : OkResponse.decode caps packet with
    | ok => rw [hdecode] at h; cases h
    | error =>
      rw [hdecode] at h
      cases h
      exact fromPacket_of_plain (plain_okResponse caps) hdecode
  · cases hdecode : EofResponse.decode packet with
    | ok => rw [hdecode] at h; cases h
    | error =>
      rw [hdecode] at h
      cases h
      exact fromPacket_of_plain plain_eofResponse hdecode

end SqlClient.Response
