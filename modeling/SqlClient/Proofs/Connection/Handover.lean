import Mathlib.Tactic.FinCases
import SqlClient.Proofs.Connection.Discarding
import SqlClient.Proofs.Cursor.Draining

namespace SqlClient

open Response Connection Discard

/-- The connections have the same use and the same transport. -/
structure Connection.Agree {τ : Type} (conn conn' : Connection τ) : Prop where
  isValid_eq : conn.isValid = conn'.isValid
  hasPendingResult_eq : conn.hasPendingResult = conn'.hasPendingResult
  transport_eq : conn.transport = conn'.transport

theorem Connection.Agree.refl {τ : Type} (conn : Connection τ) : conn.Agree conn :=
  ⟨rfl, rfl, rfl⟩

namespace Connection

section Discarded

variable {τ : Type} [FiniteTransport τ] {conn : Connection τ}

/-- The connection once what is left unread on it is thrown away. -/
def discarded (conn : Connection τ) : Connection τ :=
  afterwards (discardPending conn)

theorem discarded_of_invalid (h : conn.isValid = false) : conn.discarded = conn := by
  rw [discarded, discardPending_apply, if_pos h, afterwards_error]

theorem discarded_of_settled (h : conn.pending = .none) : conn.discarded = conn := by
  rw [discarded, discardPending_apply]
  split
  · exact afterwards_error ..
  · rw [h]
    rfl

theorem discarded_of_phase {phase : Phase} (hvalid : conn.isValid = true)
    (hphase : conn.pending.phase = some phase) :
    conn.discarded = afterwards (discardFrom conn.capabilities phase conn) := by
  rw [discarded, discardPending_apply, hvalid, if_neg (by simp), hphase]

theorem agree_discardFrom (caps : Capabilities) (phase : Phase) (conn : Connection τ)
    {pending : Pending} (hpending : pending ≠ .none) (hconn : conn.pending ≠ .none) :
    (afterwards (discardFrom caps phase conn)).Agree
      (afterwards (discardFrom caps phase { conn with pending })) := by
  have hsame := discardFrom_pending caps phase conn conn.pending
  rw [discardFrom_pending caps phase conn pending]
  cases hresult : discardFrom caps phase conn with
  | ok _ conn' => exact .refl conn'
  | error error conn' =>
    have hconn' : conn' = { conn' with pending := conn.pending } := by
      change discardFrom caps phase conn = _ at hsame
      rw [hresult] at hsame
      exact (EStateM.Result.error.inj hsame).2
    refine ⟨rfl, ?_, rfl⟩
    rw [hconn']
    simp [hasPendingResult, hpending, hconn]

end Discarded

end Connection

namespace Cursor

variable {τ : Type} [FiniteTransport τ] {cursor : Cursor (ResultSet τ)}

theorem Live.discarded_eq (h : cursor.Live) :
    cursor.release.discarded =
      afterwards (discardFrom (Transport.capabilities cursor.release.transport) .rows
        cursor.release) :=
  discarded_of_phase h.valid (by rw [h.pending]; rfl)

section Step

variable {packet : Bytes} {t : τ}

theorem Live.discarded_of_isRow [LawfulTransport τ] (h : cursor.Live)
    (hread : Transport.readPacket cursor.release.transport = (.ok packet, t))
    (hrow : isRow packet) :
    cursor.release.discarded = (cursor.onRow packet t).release.discarded := by
  have hcaps := (Takes.one hread).capabilities_eq
  rw [h.discarded_eq, (h.onRow packet t).discarded_eq,
    discardFrom_of_drive hread (drive_of_isRow hrow) (by simp), ← hcaps]
  rfl

theorem Live.agree_of_readError (h : cursor.Live) {error : Error}
    (hread : Transport.readPacket cursor.release.transport = (.error error, t))
    (hbreaks : error.breaksConnection) :
    cursor.release.discarded.Agree cursor.drain.release.discarded := by
  obtain ⟨last, hnext, -, -, -, hrelease⟩ :=
    h.nextRow_of_fail (ResultSet.next_of_readError h.unfinished hread)
  rw [if_pos hbreaks] at hrelease
  rw [h.discarded_eq, drain_of_false hnext, hrelease, discarded_of_invalid rfl,
    discardFrom_of_readError hread]
  exact .refl _

theorem Live.agree_of_serverError (h : cursor.Live)
    (hread : Transport.readPacket cursor.release.transport = (.ok packet, t))
    {report : ServerError} (hdecode : ServerError.decode packet = .ok report) :
    cursor.release.discarded.Agree cursor.drain.release.discarded := by
  have herror := isError_of_serverError hdecode
  obtain ⟨last, hnext, -, -, -, hrelease⟩ :=
    h.nextRow_of_fail (ResultSet.next_of_isError h.unfinished hread herror)
  have hstays : ¬ (Error.server report).breaksConnection := by simp [Error.breaksConnection]
  rw [ofResponse_of_serverError hdecode, if_neg hstays] at hrelease
  rw [h.discarded_eq, drain_of_false hnext, hrelease, discarded_of_settled rfl,
    discardFrom_of_finished hread (drive_of_isError herror (by simp))]
  exact .refl _

/-- A terminator that cannot be decoded breaks the connection either way; any other hands over to
the results behind it. -/
theorem Live.agree_of_isTerminator [LawfulTransport τ] (h : cursor.Live)
    (hread : Transport.readPacket cursor.release.transport = (.ok packet, t))
    (hterminator : isTerminator packet) :
    cursor.release.discarded.Agree cursor.drain.release.discarded := by
  have hcaps := (Takes.one hread).capabilities_eq
  have hdrive : Phase.rows.drive (Transport.capabilities t) packet = _ :=
    drive_of_isTerminator hterminator
  cases hstatus : terminatorStatus (Transport.capabilities t) packet with
  | error error =>
    obtain ⟨last, hnext, -, -, -, hrelease⟩ :=
      h.nextRow_of_fail (ResultSet.next_of_malformed h.unfinished hread hterminator hstatus)
    have hbreaks := breaksConnection_of_terminatorStatus hstatus
    rw [if_pos hbreaks] at hrelease
    rw [hstatus] at hdrive
    rw [h.discarded_eq, drain_of_false hnext, hrelease, discarded_of_invalid rfl,
      discardFrom_of_ok hread, ← hcaps, hdrive]
    exact .refl _
  | ok status =>
    obtain ⟨last, hnext, -, -, -, -, hrelease⟩ := h.nextRow_of_terminator hread hterminator hstatus
    rw [hstatus] at hdrive
    rw [h.discarded_eq, drain_of_false hnext, hrelease, ← hcaps]
    by_cases hmore : status.has Status.moreResults
    · have hphase : Phase.afterResult status = .firstPacket := by simp [Phase.afterResult, hmore]
      have hpending : Pending.afterResult status = .nextResult := by
        simp [Pending.afterResult, hmore]
      have hbehind : { cursor.release with transport := t, pending := .nextResult }.discarded = _ :=
        discarded_of_phase h.valid rfl
      rw [discardFrom_of_drive hread hdrive (by simp [hphase]), hpending, hbehind, hphase]
      exact agree_discardFrom _ _ _ (by simp) (by simp [h.pending])
    · have hphase : Phase.afterResult status = .finished := by simp [Phase.afterResult, hmore]
      have hpending : Pending.afterResult status = .none := by simp [Pending.afterResult, hmore]
      rw [Except.map, hphase] at hdrive
      rw [discardFrom_of_finished hread hdrive, hpending, discarded_of_settled rfl]
      exact .refl _

end Step

/-- It makes no difference whether the rows that are left are thrown away or read. -/
theorem Live.agree_drain [LawfulTransport τ] (h : cursor.Live)
    (hbreaks : (firstFailure cursor.release.transport).breaksConnection)
    (herrors : ∀ packet ∈ upcoming cursor.release.transport, isError packet →
      ∃ report, ServerError.decode packet = .ok report) :
    cursor.release.discarded.Agree cursor.drain.release.discarded := by
  fun_induction drain cursor with
  | case1 cursor next hnext ih =>
    obtain ⟨packet, t, hread, hrow, rfl⟩ := nextRow_eq_true hnext
    rw [h.discarded_of_isRow hread hrow]
    refine ih (h.onRow packet t) ?_ fun packet' hpacket' ↦ herrors packet' ?_
    · rwa [firstFailure_of_ok hread] at hbreaks
    · rw [upcoming_of_ok hread]
      exact .tail packet hpacket'
  | case2 cursor last hnext =>
    rw [← drain_of_false hnext]
    rcases hread : Transport.readPacket cursor.release.transport with ⟨error | packet, t⟩
    · rw [firstFailure_of_error hread] at hbreaks
      exact h.agree_of_readError hread hbreaks
    · by_cases herror : isError packet
      · have hmem : packet ∈ upcoming cursor.release.transport := by
          rw [upcoming_of_ok hread]
          exact List.mem_cons_self ..
        obtain ⟨report, hdecode⟩ := herrors packet hmem herror
        exact h.agree_of_serverError hread hdecode
      by_cases hterminator : isTerminator packet
      · exact h.agree_of_isTerminator hread hterminator
      -- A row would have been a step.
      have hrow : isRow packet := by simp [isRow, herror, hterminator]
      rw [h.nextRow_of_isRow hread hrow] at hnext
      cases hnext

theorem Live.exists_advances (h : cursor.Live) {count : Nat}
    (hcount : count ≤ ((upcoming cursor.release.transport).takeWhile isRow).length) :
    ∃ rows dropped t, Takes cursor.release.transport rows t ∧ Advances count cursor dropped ∧
      dropped.Live ∧ dropped.release = { cursor.release with transport := t } := by
  obtain ⟨_, -, htakes, -⟩ := takes_upcoming cursor.release.transport
  generalize upcoming cursor.release.transport = packets at hcount htakes
  rw [← List.takeWhile_append_dropWhile (p := isRow) (l := packets)] at htakes
  obtain ⟨_, hrows, -⟩ := htakes.split
  rw [← List.take_append_drop count (packets.takeWhile isRow)] at hrows
  obtain ⟨t, htaken, -⟩ := hrows.split
  obtain ⟨dropped, hadvances, hlive, hrelease⟩ := h.advances htaken fun row hrow ↦
    List.all_eq_true.mp List.all_takeWhile row (List.mem_of_mem_take hrow)
  rw [List.length_take, Nat.min_eq_left hcount] at hadvances
  exact ⟨_, dropped, t, htaken, hadvances, hlive, hrelease⟩

/-- A cursor dropped in the middle of its rows and one that was read to the end leave the same
connection behind once the rest of the response is thrown away. -/
theorem Live.discarded_dropped_eq_drained {τ : Type} [FiniteTransport τ] [LawfulTransport τ]
    {cursor : Cursor (ResultSet (Observed τ))} (hlive : cursor.Live)
    (hbreaks : (firstFailure cursor.release.transport).breaksConnection)
    (herrors : ∀ packet ∈ upcoming cursor.release.transport, isError packet →
      ∃ report, ServerError.decode packet = .ok report)
    {count : Nat} (hcount : count ≤ ((upcoming cursor.release.transport).takeWhile isRow).length) :
    ∃ dropped, Advances count cursor dropped ∧
      dropped.release.discarded.isValid = cursor.drain.release.discarded.isValid ∧
      dropped.release.discarded.hasPendingResult =
        cursor.drain.release.discarded.hasPendingResult ∧
      dropped.release.discarded.transport.packets =
        cursor.drain.release.discarded.transport.packets := by
  obtain ⟨rows, dropped, t, htakes, hadvances, hdropped, hrelease⟩ := hlive.exists_advances hcount
  have htransport : dropped.release.transport = t := by rw [hrelease]
  rw [htakes.firstFailure_eq, ← htransport] at hbreaks
  have hagree := hdropped.agree_drain hbreaks fun packet hpacket ↦ herrors packet <| by
    rw [htakes.upcoming_eq, ← htransport]
    exact List.mem_append_right rows hpacket
  rw [← hadvances.drain_eq] at hagree
  exact ⟨dropped, hadvances, hagree.isValid_eq, hagree.hasPendingResult_eq,
    congrArg Observed.packets hagree.transport_eq⟩

/-- Two rows, the announcement of another result, and an error in its place. -/
def interrupted : Cursor (ResultSet (Observed ScriptedTransport)) :=
  .ofStream {
    conn := { ofTransport { inner := {
      capabilities := .ofBits 0
      script := [[0x01, 0x61], [0x01, 0x62], [0xFE, 0, 0, 8, 0], [0xFF, 0x10, 0x04]].map .ok } } with
      pending := .rows }
    columns := []
    finished := false }

theorem discarded_interrupted_after_one :
    interrupted.Live ∧ (firstFailure interrupted.release.transport).breaksConnection ∧
      (∀ packet ∈ upcoming interrupted.release.transport, isError packet →
        ∃ report, ServerError.decode packet = .ok report) ∧
      1 ≤ ((upcoming interrupted.release.transport).takeWhile isRow).length ∧
      ∃ dropped, Advances 1 interrupted dropped ∧
        dropped.release.discarded.isValid = interrupted.drain.release.discarded.isValid ∧
        dropped.release.discarded.hasPendingResult =
          interrupted.drain.release.discarded.hasPendingResult ∧
        dropped.release.discarded.transport.packets =
          interrupted.drain.release.discarded.transport.packets := by
  have hlive : interrupted.Live := live_ofStream _ rfl rfl []
  have hbreaks : (firstFailure interrupted.release.transport).breaksConnection := by
    iterate 4 rw [firstFailure_of_ok rfl]
    rw [firstFailure_of_error rfl]
    rfl
  have hupcoming : upcoming interrupted.release.transport =
      [[0x01, 0x61], [0x01, 0x62], [0xFE, 0, 0, 8, 0], [0xFF, 0x10, 0x04]] := by
    iterate 4 rw [upcoming_of_ok rfl]
    rw [upcoming_of_error rfl]
  have herrors : ∀ packet ∈ upcoming interrupted.release.transport, isError packet →
      ∃ report, ServerError.decode packet = .ok report := by
    rw [hupcoming]
    intro packet hpacket herror
    fin_cases hpacket
    · cases herror
    · cases herror
    · cases herror
    · exact ⟨_, rfl⟩
  have hcount : 1 ≤ ((upcoming interrupted.release.transport).takeWhile isRow).length := by
    rw [hupcoming]
    decide
  exact ⟨hlive, hbreaks, herrors, hcount,
    hlive.discarded_dropped_eq_drained hbreaks herrors hcount⟩

end Cursor

end SqlClient
