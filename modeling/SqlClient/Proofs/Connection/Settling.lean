import SqlClient.Proofs.Connection.Keeps

namespace SqlClient

open Discard

/-- With what has been read last there is nothing left to feed to the machine, which has failed with
the error if there is one. -/
inductive Discard.Stops (caps : Capabilities) (phase : Phase) :
    Except Error Bytes → Option Error → Prop
  | finished {packet : Bytes} : phase.drive caps packet = .ok .finished →
      Stops caps phase (.ok packet) none
  | malformed {packet : Bytes} {error : Error} : phase.drive caps packet = .error error →
      Stops caps phase (.ok packet) (some error)
  | unread (error : Error) : Stops caps phase (.error error) (some error)

theorem Discard.Passes.ne_finished {caps : Capabilities} {phase phase' : Phase}
    {packets : List Bytes} (h : Passes caps phase packets phase') (hphase : phase ≠ .finished) :
    phase' ≠ .finished := by
  induction h with
  | nil => exact hphase
  | cons _ hphase' _ ih => exact ih hphase'

namespace Connection

section Transport

variable {τ : Type} [Transport τ] {caps : Capabilities} {phase : Phase} {conn : Connection τ}
  {result : EStateM.Result Error (Connection τ) Unit}

/-- The packets are taken one by one as long as the machine neither finishes nor fails on one. -/
theorem DiscardsFrom.exists_takes (h : DiscardsFrom caps phase conn result) :
    ∃ packets t phase' last, Takes conn.transport packets t ∧
      Transport.readPacket t = (last, (afterwards result).transport) ∧
      Passes caps phase packets phase' ∧ Stops caps phase' last (error? result) := by
  induction h with
  | readError hread => exact ⟨[], _, _, _, .nil _, hread, .nil _, .unread _⟩
  | malformed hread hdrive => exact ⟨[], _, _, _, .nil _, hread, .nil _, .malformed hdrive⟩
  | finished hread hdrive => exact ⟨[], _, _, _, .nil _, hread, .nil _, .finished hdrive⟩
  | next hread hdrive hphase _ ih =>
    obtain ⟨packets, t, phase', last, htakes, hlast, hpasses, hstops⟩ := ih
    exact ⟨_ :: packets, t, phase', last, .cons hread htakes, hlast,
      .cons hdrive hphase hpasses, hstops⟩

theorem DiscardsFrom.ready_or_broken (h : DiscardsFrom caps phase conn result)
    (hvalid : conn.isValid = true) : Ends Ready (fun _ conn ↦ conn.isValid = false) result := by
  induction h with
  | readError | malformed => rfl
  | finished => exact ⟨hvalid, rfl⟩
  | next _ _ _ _ ih => exact ih hvalid

theorem DiscardsPending.ready_or_broken (h : DiscardsPending conn result) :
    Ends Ready (fun _ conn ↦ conn.isValid = false) result := by
  cases h with
  | broken hinvalid => exact hinvalid
  | settled hvalid hphase => exact ⟨hvalid, phase_eq_none_iff.mp hphase⟩
  | pending hvalid _ hdiscards => exact hdiscards.ready_or_broken hvalid

/-- There is nothing to throw away, or the packets may not be read. -/
theorem DiscardsPending.afterwards_eq (h : DiscardsPending conn result)
    (huntouched : conn.isValid = false ∨ conn.hasPendingResult = false) :
    afterwards result = conn := by
  cases h with
  | broken | settled => rfl
  | pending hvalid hphase _ =>
    exfalso
    obtain hinvalid | hsettled := huntouched
    · simp [hvalid] at hinvalid
    · have hnone : conn.pending = .none := by simpa [hasPendingResult] using hsettled
      rw [phase_eq_none_iff.mpr hnone] at hphase
      cases hphase

end Transport

section Observed

variable {τ : Type} [FiniteTransport τ]

/-- Throwing away what is pending leads from the connection to the result. -/
structure Settles (conn : Connection (Observed τ))
    (result : EStateM.Result Error (Connection (Observed τ)) Unit) : Prop where
  ok_iff : error? result = none ↔
    (afterwards result).isValid = true ∧ (afterwards result).hasPendingResult = false
  error_iff : error? result ≠ none ↔ (afterwards result).isValid = false
  untouched : conn.isValid = false ∨ conn.hasPendingResult = false → afterwards result = conn
  /-- The packets are taken up to the one on which the machine finishes or fails, or up to the read
  that fails, and nothing is written. -/
  takes : conn.isValid = true → conn.hasPendingResult = true →
    ∃ phase packets t phase' last, conn.pending.phase = some phase ∧
      Takes conn.transport packets t ∧
      Transport.readPacket t = (last, (afterwards result).transport) ∧
      packets.length ≤ FiniteTransport.backlog conn.transport ∧
      (afterwards result).transport.calls = conn.transport.calls ++ Call.reads packets last ∧
      Passes conn.capabilities phase packets phase' ∧
      Stops conn.capabilities phase' last (error? result)

theorem DiscardsPending.settles {conn : Connection (Observed τ)}
    {result : EStateM.Result Error (Connection (Observed τ)) Unit}
    (h : DiscardsPending conn result) : Settles conn result where
  ok_iff := by
    have hends := h.ready_or_broken
    cases result with
    | ok _ settled => simp [error?, hends.valid, hasPendingResult, hends.settled]
    | error error settled =>
      have hinvalid : settled.isValid = false := hends
      simp [error?, hinvalid]
  error_iff := by
    have hends := h.ready_or_broken
    cases result with
    | ok _ settled => simp [error?, hends.valid]
    | error error settled =>
      have hinvalid : settled.isValid = false := hends
      simp [error?, hinvalid]
  untouched := h.afterwards_eq
  takes := by
    intro hvalid hpending
    cases h with
    | broken hinvalid =>
      rw [hvalid] at hinvalid
      cases hinvalid
    | settled _ hphase =>
      simp [hasPendingResult, phase_eq_none_iff.mp hphase] at hpending
    | @pending phase _ _ hphase hdiscards =>
      obtain ⟨packets, t, phase', last, htakes, hlast, hpasses, hstops⟩ := hdiscards.exists_takes
      have hlength := htakes.length_add_backlog_le
      exact ⟨phase, packets, t, phase', last, hphase, htakes, hlast, by omega,
        Observed.calls_of_takes htakes hlast, hpasses, hstops⟩

/-- Throwing away what is pending comes to an end in every state of the connection, and leaves it
ready or broken. -/
theorem settles_discardPending (conn : Connection (Observed τ)) :
    (∃! result, DiscardsPending conn result) ∧ Settles conn (discardPending conn) := by
  have hdiscards : DiscardsPending conn (discardPending conn) := discardsPending_iff.mpr rfl
  refine ⟨⟨discardPending conn, hdiscards, ?_⟩, hdiscards.settles⟩
  intro result hresult
  exact (discardsPending_iff.mp hresult).symm

end Observed

end Connection

end SqlClient
