import SqlClient.Proofs.Response.Kind

namespace SqlClient.Response

def isRow (packet : Bytes) : Bool :=
  !isError packet && !isTerminator packet

theorem isRow_eq_true_iff {packet : Bytes} :
    isRow packet ↔ isError packet = false ∧ isTerminator packet = false := by
  simp [isRow]

end SqlClient.Response

namespace SqlClient.Discard

open Response

variable {caps : Capabilities} {packet : Bytes}

def Phase.behindColumns (caps : Capabilities) : Phase :=
  if caps.has Capabilities.deprecateEof then .rows else .intermediateEof

def Phase.inColumns (caps : Capabilities) (count : Nat) : Phase :=
  if count = 0 then .behindColumns caps else .columns count

def Phase.behindResult : Option Status → Phase
  | none => .finished
  | some status => .afterResult status

theorem drive_of_isError {phase : Phase} (h : isError packet) (hphase : phase ≠ .finished) :
    phase.drive caps packet = .ok .finished := by
  unfold Phase.drive
  exact if_pos ⟨h, hphase⟩

theorem drive_of_ok {ok : OkResponse} (h : packet.head? = some okHeader)
    (hdecode : OkResponse.decode caps packet = .ok ok) :
    Phase.firstPacket.drive caps packet = .ok (.afterResult ok.status) := by
  have herror := isError_eq_false_of_head? h (by decide)
  simp [Phase.drive, herror, header_of_ok h, hdecode, bind, Except.bind, pure, Except.pure]

theorem drive_of_header {count : Nat} (h : Header.decode packet = .ok (.resultSet count)) :
    Phase.firstPacket.drive caps packet = .ok (.columns count) := by
  cases herror : isError packet with
  | true =>
    rw [header_of_isError herror] at h
    cases h
  | false => simp [Phase.drive, herror, h, bind, Except.bind, pure, Except.pure]

theorem drive_of_column (h : isError packet = false) (count : Nat) :
    (Phase.columns (count + 1)).drive caps packet = .ok (.inColumns caps count) := by
  cases count with
  | zero => cases hcaps : caps.has Capabilities.deprecateEof <;>
      simp [Phase.drive, h, hcaps, Phase.inColumns, Phase.behindColumns]
  | succ count => simp [Phase.drive, h, Phase.inColumns]

theorem drive_of_separator (h : isError packet = false) :
    Phase.intermediateEof.drive caps packet = .ok .rows := by
  simp [Phase.drive, h]

theorem drive_of_isRow (h : isRow packet) : Phase.rows.drive caps packet = .ok .rows := by
  obtain ⟨herror, hterminator⟩ := isRow_eq_true_iff.mp h
  simp [Phase.drive, herror, hterminator]

theorem drive_of_isTerminator (h : isTerminator packet) :
    Phase.rows.drive caps packet = (terminatorStatus caps packet).map .afterResult := by
  simp [Phase.drive, isError_eq_false_of_isTerminator h, h]

/-- What the machine stops at: a packet that cannot be decoded, or one that it should not be fed. -/
theorem drive_eq_error {phase : Phase} {error : Error}
    (h : phase.drive caps packet = .error error) :
    phase = .finished ∧ error = .libraryBug "discard driven after it finished" ∨
      isError packet = false ∧ (Header.decode packet = .error error ∨
        (∃ payload, OkResponse.decode caps payload = .error error) ∨
        terminatorStatus caps packet = .error error) := by
  by_cases hend : isError packet ∧ phase ≠ .finished
  · rw [drive_of_isError hend.1 hend.2] at h
    cases h
  have hpacket (hphase : phase ≠ .finished) : isError packet = false := by
    rw [← Bool.not_eq_true]
    intro herror
    exact hend ⟨herror, hphase⟩
  cases phase with
  | firstPacket =>
    rw [Phase.drive, if_neg hend] at h
    refine .inr ⟨hpacket (by simp), ?_⟩
    simp only [bind, Except.bind] at h
    cases hheader : Header.decode packet with
    | error failure =>
      rw [hheader] at h
      cases h
      exact .inl rfl
    | ok header =>
      rw [hheader] at h
      cases header with
      | resultSet count => cases h
      | ok payload =>
        cases hdecode : OkResponse.decode caps payload with
        | ok ok =>
          simp only [hdecode] at h
          cases h
        | error failure =>
          simp only [hdecode] at h
          cases h
          exact .inr (.inl ⟨payload, hdecode⟩)
  | columns remaining =>
    rw [Phase.drive, if_neg hend] at h
    split at h
    · cases h
    · split at h <;> cases h
  | intermediateEof =>
    rw [Phase.drive, if_neg hend] at h
    cases h
  | rows =>
    rw [Phase.drive, if_neg hend] at h
    refine .inr ⟨hpacket (by simp), .inr (.inr ?_)⟩
    split at h
    · cases hstatus : terminatorStatus caps packet with
      | ok status =>
        rw [hstatus] at h
        cases h
      | error failure =>
        rw [hstatus] at h
        cases h
        rfl
    · cases h
  | finished =>
    rw [Phase.drive, if_neg hend] at h
    cases h
    exact .inl ⟨rfl, rfl⟩

/-- An error of the server is no reason to stop, but the end of the response. -/
theorem breaksConnection_of_drive {phase : Phase} {error : Error}
    (h : phase.drive caps packet = .error error) : error.breaksConnection := by
  obtain ⟨-, rfl⟩ | ⟨hpacket, hheader | ⟨payload, hdecode⟩ | hstatus⟩ := drive_eq_error h
  · rfl
  · obtain ⟨-, herror⟩ | hbreaks := header_error_cases hheader
    · cases hpacket.symm.trans herror
    · exact hbreaks
  · exact (plain_okResponse caps).breaksConnection hdecode
  · exact breaksConnection_of_terminatorStatus hstatus

theorem fromPacket_of_drive {phase : Phase} (hphase : phase ≠ .finished) {error : Error}
    (h : phase.drive caps packet = .error error) : FromPacket error := by
  obtain ⟨hfinished, -⟩ | ⟨-, hheader | ⟨payload, hdecode⟩ | hstatus⟩ := drive_eq_error h
  · exact absurd hfinished hphase
  · exact fromPacket_of_header hheader
  · exact fromPacket_of_plain (plain_okResponse caps) hdecode
  · exact fromPacket_of_terminatorStatus hstatus

end SqlClient.Discard
