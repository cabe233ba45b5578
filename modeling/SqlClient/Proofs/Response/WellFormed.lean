import Mathlib.Data.List.Forall2
import SqlClient.Proofs.Discard.Phase

namespace SqlClient.Response

open Discard

abbrev Defines : List Bytes → List Column → Prop :=
  List.Forall₂ fun packet column ↦ Column.decode packet = .ok column

def Separator (caps : Capabilities) (packets : List Bytes) : Prop :=
  if caps.has Capabilities.deprecateEof then packets = []
  else ∃ packet eof, packets = [packet] ∧ EofResponse.decode packet = .ok eof

/-- The packets in front of the rows of a result set. -/
inductive Front (caps : Capabilities) (columns : List Column) : List Bytes → Prop
  | intro {header : Bytes} {definitions separator : List Bytes} :
      Header.decode header = .ok (.resultSet definitions.length) → Defines definitions columns →
      Separator caps separator → Front caps columns (header :: (definitions ++ separator))

inductive Ending (caps : Capabilities) : Bytes → Option Status → Prop
  | error {packet : Bytes} {report : ServerError} :
      ServerError.decode packet = .ok report → Ending caps packet none
  | terminator {packet : Bytes} {status : Status} :
      isTerminator packet → terminatorStatus caps packet = .ok status →
      Ending caps packet (some status)

inductive Result (caps : Capabilities) : List Bytes → Option Status → Prop
  | error {packet : Bytes} {report : ServerError} :
      ServerError.decode packet = .ok report → Result caps [packet] none
  | ok {packet : Bytes} {ok : OkResponse} :
      packet.head? = some okHeader → OkResponse.decode caps packet = .ok ok →
      Result caps [packet] (some ok.status)
  | rows {header last : Bytes} {definitions separator rows : List Bytes} {count : UInt64}
      {columns : List Column} {status : Option Status} :
      Decoder.lenencInt.decode header = .ok count → 1 ≤ count.toNat →
      definitions.length = count.toNat → Defines definitions columns →
      Separator caps separator → (∀ row ∈ rows, isRow row) → Ending caps last status →
      Result caps (header :: (definitions ++ (separator ++ (rows ++ [last])))) status

def announcesMore (status : Option Status) : Bool :=
  status.any (·.has Status.moreResults)

/-- A response is a sequence of results. Each is followed by another one exactly when it announces
it. -/
inductive WellFormed (caps : Capabilities) : List Bytes → Prop
  | last {packets : List Bytes} {status : Option Status} :
      Result caps packets status → announcesMore status = false → WellFormed caps packets
  | more {packets rest : List Bytes} {status : Option Status} :
      Result caps packets status → announcesMore status = true → WellFormed caps rest →
      WellFormed caps (packets ++ rest)

/-- What is left of a well-formed response in a phase of reading it. -/
inductive Rest (caps : Capabilities) : Phase → List Bytes → Prop
  | finished : Rest caps .finished []
  | error {packet : Bytes} {report : ServerError} :
      ServerError.decode packet = .ok report → Rest caps .firstPacket [packet]
  | ok {packet : Bytes} {packets : List Bytes} {ok : OkResponse} :
      packet.head? = some okHeader → OkResponse.decode caps packet = .ok ok →
      Rest caps (.afterResult ok.status) packets → Rest caps .firstPacket (packet :: packets)
  | header {packet : Bytes} {packets : List Bytes} {count : UInt64} :
      Decoder.lenencInt.decode packet = .ok count → 1 ≤ count.toNat →
      Rest caps (.columns count.toNat) packets → Rest caps .firstPacket (packet :: packets)
  | column {packet : Bytes} {packets : List Bytes} {count : Nat} {column : Column} :
      Column.decode packet = .ok column → Rest caps (.inColumns caps count) packets →
      Rest caps (.columns (count + 1)) (packet :: packets)
  | separator {packet : Bytes} {packets : List Bytes} {eof : EofResponse} :
      EofResponse.decode packet = .ok eof → Rest caps .rows packets →
      Rest caps .intermediateEof (packet :: packets)
  | abort {packet : Bytes} {report : ServerError} :
      ServerError.decode packet = .ok report → Rest caps .rows [packet]
  | row {packet : Bytes} {packets : List Bytes} :
      isRow packet → Rest caps .rows packets → Rest caps .rows (packet :: packets)
  | terminator {packet : Bytes} {packets : List Bytes} {status : Status} :
      isTerminator packet → terminatorStatus caps packet = .ok status →
      Rest caps (.afterResult status) packets → Rest caps .rows (packet :: packets)

variable {caps : Capabilities} {packets : List Bytes}

theorem behindResult_eq (status : Option Status) :
    Phase.behindResult status = if announcesMore status then .firstPacket else .finished := by
  cases status <;> rfl

/-- The machine takes the next packet of what is left, and what is left then fits its next phase. -/
theorem Rest.drive {phase : Phase} (h : Rest caps phase packets) (hphase : phase ≠ .finished) :
    ∃ packet packets' phase', packets = packet :: packets' ∧
      phase.drive caps packet = .ok phase' ∧ Rest caps phase' packets' := by
  cases h with
  | finished => exact absurd rfl hphase
  | error hdecode | abort hdecode =>
    exact ⟨_, _, _, rfl, drive_of_isError (isError_of_serverError hdecode) hphase, .finished⟩
  | ok hhead hdecode hrest => exact ⟨_, _, _, rfl, drive_of_ok hhead hdecode, hrest⟩
  | header hcount hpos hrest =>
    exact ⟨_, _, _, rfl, drive_of_header (header_of_count hcount hpos), hrest⟩
  | column hdecode hrest =>
    exact ⟨_, _, _, rfl, drive_of_column (isError_eq_false_of_column hdecode) _, hrest⟩
  | separator hdecode hrest =>
    exact ⟨_, _, _, rfl, drive_of_separator (isError_eq_false_of_eof hdecode), hrest⟩
  | row hrow hrest => exact ⟨_, _, _, rfl, drive_of_isRow hrow, hrest⟩
  | terminator hterminator hstatus hrest =>
    refine ⟨_, _, _, rfl, ?_, hrest⟩
    rw [drive_of_isTerminator hterminator, hstatus]
    rfl

theorem Rest.eq_nil_iff {phase : Phase} (h : Rest caps phase packets) :
    packets = [] ↔ phase = .finished := by
  constructor
  · rintro rfl
    cases h
    rfl
  · rintro rfl
    cases h
    rfl

theorem Rest.of_columns {definitions : List Bytes} {columns : List Column}
    (h : Defines definitions columns) (hrest : Rest caps (.behindColumns caps) packets) :
    Rest caps (.inColumns caps definitions.length) (definitions ++ packets) := by
  induction h with
  | nil => exact hrest
  | cons hdecode _ ih => exact .column hdecode ih

theorem Rest.exists_columns {count : Nat} (h : Rest caps (.inColumns caps count) packets) :
    ∃ definitions columns separator rows, packets = definitions ++ (separator ++ rows) ∧
      definitions.length = count ∧ Defines definitions columns ∧ Separator caps separator ∧
      Rest caps .rows rows := by
  induction count generalizing packets with
  | zero =>
    change Rest caps (.behindColumns caps) packets at h
    unfold Phase.behindColumns at h
    unfold Separator
    split at h
    · next hcaps =>
      simp only [hcaps, if_true]
      exact ⟨[], [], [], packets, rfl, rfl, .nil, rfl, h⟩
    · next hcaps =>
      simp only [hcaps, Bool.false_eq_true, if_false]
      cases h with
      | @separator packet rows eof hdecode hrest =>
        exact ⟨[], [], [packet], rows, rfl, rfl, .nil, ⟨packet, eof, rfl, hdecode⟩, hrest⟩
  | succ count ih =>
    cases h with
    | @column packet packets _ column hdecode hrest =>
      obtain ⟨definitions, columns, separator, rows, rfl, hlength, hcolumns, hseparator, hrows⟩ :=
        ih hrest
      exact ⟨packet :: definitions, column :: columns, separator, rows, rfl, by simp [hlength],
        .cons hdecode hcolumns, hseparator, hrows⟩

theorem Rest.of_separator {separator : List Bytes} (h : Separator caps separator)
    (hrest : Rest caps .rows packets) :
    Rest caps (.behindColumns caps) (separator ++ packets) := by
  unfold Separator at h
  unfold Phase.behindColumns
  split at h
  · next hcaps => rwa [h, if_pos hcaps]
  · next hcaps =>
    obtain ⟨packet, eof, rfl, hdecode⟩ := h
    rw [if_neg hcaps]
    exact .separator hdecode hrest

theorem Rest.of_ending {last : Bytes} {status : Option Status} (h : Ending caps last status)
    (hrest : Rest caps (.behindResult status) packets) : Rest caps .rows (last :: packets) := by
  cases h with
  | error hdecode =>
    cases hrest
    exact .abort hdecode
  | terminator hterminator hstatus => exact .terminator hterminator hstatus hrest

theorem Rest.of_rows {rows : List Bytes} (h : ∀ row ∈ rows, isRow row)
    (hrest : Rest caps .rows packets) : Rest caps .rows (rows ++ packets) := by
  induction rows with
  | nil => exact hrest
  | cons row rows ih =>
    exact .row (h row (List.mem_cons_self ..)) (ih fun row' hrow' ↦ h row' (.tail row hrow'))

theorem Rest.of_result {result : List Bytes} {status : Option Status}
    (h : Result caps result status) (hrest : Rest caps (.behindResult status) packets) :
    Rest caps .firstPacket (result ++ packets) := by
  cases h with
  | error hdecode =>
    cases hrest
    exact .error hdecode
  | ok hhead hdecode => exact .ok hhead hdecode hrest
  | @rows header last definitions separator rows count columns _ hcount hpos hlength hcolumns
      hseparator hrows hlast =>
    have hbehind := Rest.of_separator hseparator (.of_rows hrows (.of_ending hlast hrest))
    have hcolumn := Rest.of_columns hcolumns hbehind
    rw [Phase.inColumns, if_neg (by omega), hlength] at hcolumn
    simpa using Rest.header hcount hpos hcolumn

theorem WellFormed.rest (h : WellFormed caps packets) : Rest caps .firstPacket packets := by
  induction h with
  | @last packets status hresult hmore =>
    have hrest : Rest caps (.behindResult status) [] := by
      simpa [behindResult_eq, hmore] using Rest.finished
    simpa using Rest.of_result hresult hrest
  | @more packets rest status hresult hmore _ ih =>
    have hrest : Rest caps (.behindResult status) rest := by
      simpa [behindResult_eq, hmore] using ih
    exact Rest.of_result hresult hrest

end SqlClient.Response
