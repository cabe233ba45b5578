import SqlClient.Proofs.Connection.Actions
import SqlClient.Proofs.Response.WellFormed

namespace SqlClient

open Response Discard

inductive Discard.Passes (caps : Capabilities) : Phase → List Bytes → Phase → Prop
  | nil (phase : Phase) : Passes caps phase [] phase
  | cons {phase phase' phase'' : Phase} {packet : Bytes} {packets : List Bytes} :
      phase.drive caps packet = .ok phase' → phase' ≠ .finished →
      Passes caps phase' packets phase'' → Passes caps phase (packet :: packets) phase''

theorem Discard.Passes.append {caps : Capabilities} {phase phase' phase'' : Phase}
    {packets packets' : List Bytes} (h : Passes caps phase packets phase')
    (h' : Passes caps phase' packets' phase'') : Passes caps phase (packets ++ packets') phase'' := by
  induction h with
  | nil => exact h'
  | cons hdrive hphase _ ih => exact .cons hdrive hphase (ih h')

theorem Discard.behindColumns_ne_finished (caps : Capabilities) :
    Phase.behindColumns caps ≠ .finished := by
  unfold Phase.behindColumns
  split <;> simp

theorem Discard.passes_of_some_columns (caps : Capabilities) {definitions : List Bytes}
    {columns : List Column} (h : Defines definitions columns) (count : Nat) :
    Passes caps (.inColumns caps (definitions.length + count)) definitions
      (.inColumns caps count) := by
  induction h with
  | nil =>
    rw [List.length_nil, Nat.zero_add]
    exact .nil _
  | @cons _ _ definitions _ hdecode _ ih =>
    rw [List.length_cons, Nat.add_right_comm]
    refine .cons (drive_of_column (isError_eq_false_of_column hdecode) _) ?_ ih
    unfold Phase.inColumns
    split
    · exact behindColumns_ne_finished caps
    · simp

theorem Discard.passes_of_columns (caps : Capabilities) {definitions : List Bytes}
    {columns : List Column} (h : Defines definitions columns) :
    Passes caps (.inColumns caps definitions.length) definitions (.behindColumns caps) :=
  passes_of_some_columns caps h 0

theorem Discard.passes_of_rows (caps : Capabilities) {rows : List Bytes}
    (h : ∀ row ∈ rows, isRow row) : Passes caps .rows rows .rows := by
  induction rows with
  | nil => exact .nil _
  | cons row rows ih =>
    refine .cons (drive_of_isRow (h row (List.mem_cons_self ..))) (by simp) ?_
    exact ih fun row' hrow' ↦ h row' (.tail row hrow')

theorem Discard.passes_of_separator {caps : Capabilities} {separator : List Bytes}
    (h : Separator caps separator) : Passes caps (.behindColumns caps) separator .rows := by
  unfold Separator at h
  unfold Phase.behindColumns
  split at h
  · next hcaps =>
    rw [h, if_pos hcaps]
    exact .nil _
  · next hcaps =>
    obtain ⟨packet, eof, rfl, hdecode⟩ := h
    rw [if_neg hcaps]
    exact .cons (drive_of_separator (isError_eq_false_of_eof hdecode)) (by simp) (.nil _)

namespace Connection

variable {τ : Type} [FiniteTransport τ] {caps : Capabilities} {phase phase' : Phase}
  {conn : Connection τ} {packet : Bytes} {t : τ} {error : Error}

theorem discardFrom_of_readError (hread : Transport.readPacket conn.transport = (.error error, t)) :
    discardFrom caps phase conn = .error error { conn with transport := t }.invalidate := by
  rw [discardFrom]
  split
  · next h => cases hread.symm.trans h; rfl
  · next h => cases hread.symm.trans h

theorem discardFrom_of_ok (hread : Transport.readPacket conn.transport = (.ok packet, t)) :
    discardFrom caps phase conn = match phase.drive caps packet with
      | .error error => .error error { conn with transport := t }.invalidate
      | .ok .finished => .ok () { conn with transport := t, pending := .none }
      | .ok phase => discardFrom caps phase { conn with transport := t } := by
  rw [discardFrom]
  split
  · next h => cases hread.symm.trans h
  · next h => cases hread.symm.trans h; rfl

theorem discardFrom_of_finished (hread : Transport.readPacket conn.transport = (.ok packet, t))
    (hdrive : phase.drive caps packet = .ok .finished) :
    discardFrom caps phase conn = .ok () { conn with transport := t, pending := .none } := by
  rw [discardFrom_of_ok hread, hdrive]

theorem discardFrom_of_drive (hread : Transport.readPacket conn.transport = (.ok packet, t))
    (hdrive : phase.drive caps packet = .ok phase') (hphase : phase' ≠ .finished) :
    discardFrom caps phase conn = discardFrom caps phase' { conn with transport := t } := by
  rw [discardFrom_of_ok hread, hdrive]
  split
  · next h => cases h
  · next h => cases h; exact absurd rfl hphase
  · next h => cases h; rfl

theorem discardFrom_of_passes {packets : List Bytes} (htakes : Takes conn.transport packets t)
    (h : Passes caps phase packets phase') :
    discardFrom caps phase conn = discardFrom caps phase' { conn with transport := t } := by
  induction h generalizing conn with
  | nil =>
    cases htakes
    rfl
  | cons hdrive hphase _ ih =>
    cases htakes with
    | cons hread hrest => exact (discardFrom_of_drive hread hdrive hphase).trans (ih hrest)

/-- What is left of a well-formed response is thrown away to the last packet. -/
theorem discardFrom_of_rest {packets : List Bytes} (htakes : Takes conn.transport packets t)
    (h : Rest caps phase packets) (hphase : phase ≠ .finished) :
    discardFrom caps phase conn = .ok () { conn with transport := t, pending := .none } := by
  induction packets generalizing conn phase with
  | nil =>
    obtain ⟨packet, packets', phase', heq, -⟩ := h.drive hphase
    cases heq
  | cons packet packets ih =>
    obtain ⟨_, _, phase', heq, hdrive, hrest⟩ := h.drive hphase
    cases heq
    cases htakes with
    | cons hread htakes =>
      by_cases hphase' : phase' = .finished
      · subst hphase'
        cases hrest
        cases htakes
        exact discardFrom_of_finished hread hdrive
      · exact (discardFrom_of_drive hread hdrive hphase').trans (ih htakes hrest hphase')

/-- What was pending shows only if the machine fails. -/
theorem discardFrom_pending (caps : Capabilities) (phase : Phase) (conn : Connection τ)
    (pending : Pending) :
    discardFrom caps phase { conn with pending } = match discardFrom caps phase conn with
      | .ok () conn' => .ok () conn'
      | .error error conn' => .error error { conn' with pending } := by
  fun_induction discardFrom caps phase conn with
  | case1 phase conn error t hread =>
    rw [show discardFrom caps phase { conn with pending } = _ from discardFrom_of_readError hread]
    rfl
  | case2 phase conn packet t hread error hdrive =>
    rw [show discardFrom caps phase { conn with pending } = _ from discardFrom_of_ok hread, hdrive]
    rfl
  | case3 phase conn packet t hread hdrive =>
    exact discardFrom_of_finished hread hdrive
  | case4 phase conn packet t hread phase' hphase hdrive ih =>
    rw [show discardFrom caps phase { conn with pending } = _ from
      discardFrom_of_drive hread hdrive hphase]
    exact ih

theorem isValid_of_discardFrom {conn' : Connection τ}
    (h : discardFrom caps phase conn = .error error conn') : conn'.isValid = false := by
  fun_induction discardFrom caps phase conn with
  | case1 | case2 =>
    cases h
    rfl
  | case3 => cases h
  | case4 _ _ _ _ _ _ _ _ ih => exact ih h

theorem discardPending_apply (conn : Connection τ) :
    discardPending conn = if conn.isValid = false then .error .connectionBroken conn
      else match conn.pending.phase with
        | none => .ok () conn
        | some phase => discardFrom conn.capabilities phase conn := by
  unfold discardPending
  rw [bind_apply, get_apply]
  dsimp only
  cases hv : conn.isValid with
  | false =>
    simp only [Bool.not_false, if_true]
    rfl
  | true =>
    simp only [Bool.not_true, Bool.false_eq_true, if_false]
    cases conn.pending.phase <;> rfl

/-- The machine is not started where it has finished. -/
theorem phase_ne_finished (pending : Pending) : pending.phase ≠ some .finished := by
  cases pending <;> simp [Pending.phase]

theorem phase_eq_none_iff {pending : Pending} : pending.phase = none ↔ pending = .none := by
  cases pending <;> simp [Pending.phase]

section Transport

variable {τ : Type} [Transport τ]

/-- Throwing packets away from the phase on comes to the result. Over a transport that hands out
packets forever, it may come to none. -/
inductive DiscardsFrom (caps : Capabilities) :
    Phase → Connection τ → EStateM.Result Error (Connection τ) Unit → Prop
  | readError {phase : Phase} {conn : Connection τ} {error : Error} {t : τ} :
      Transport.readPacket conn.transport = (.error error, t) →
      DiscardsFrom caps phase conn (fail error { conn with transport := t })
  | malformed {phase : Phase} {conn : Connection τ} {packet : Bytes} {error : Error} {t : τ} :
      Transport.readPacket conn.transport = (.ok packet, t) →
      phase.drive caps packet = .error error →
      DiscardsFrom caps phase conn (fail error { conn with transport := t })
  | finished {phase : Phase} {conn : Connection τ} {packet : Bytes} {t : τ} :
      Transport.readPacket conn.transport = (.ok packet, t) →
      phase.drive caps packet = .ok .finished →
      DiscardsFrom caps phase conn (.ok () { conn with transport := t, pending := .none })
  | next {phase phase' : Phase} {conn : Connection τ} {packet : Bytes} {t : τ}
      {result : EStateM.Result Error (Connection τ) Unit} :
      Transport.readPacket conn.transport = (.ok packet, t) →
      phase.drive caps packet = .ok phase' → phase' ≠ .finished →
      DiscardsFrom caps phase' { conn with transport := t } result →
      DiscardsFrom caps phase conn result

inductive DiscardsPending (conn : Connection τ) :
    EStateM.Result Error (Connection τ) Unit → Prop
  | broken : conn.isValid = false → DiscardsPending conn (.error .connectionBroken conn)
  | settled : conn.isValid = true → conn.pending.phase = none → DiscardsPending conn (.ok () conn)
  | pending {phase : Phase} {result : EStateM.Result Error (Connection τ) Unit} :
      conn.isValid = true → conn.pending.phase = some phase →
      DiscardsFrom conn.capabilities phase conn result → DiscardsPending conn result

end Transport

variable {result : EStateM.Result Error (Connection τ) Unit}

theorem discardsFrom_iff : DiscardsFrom caps phase conn result ↔ discardFrom caps phase conn = result := by
  constructor
  · intro h
    induction h with
    | readError hread => exact discardFrom_of_readError hread
    | malformed hread hdrive =>
      rw [discardFrom_of_ok hread, hdrive]
      rfl
    | finished hread hdrive => exact discardFrom_of_finished hread hdrive
    | next hread hdrive hphase _ ih => exact (discardFrom_of_drive hread hdrive hphase).trans ih
  · rintro rfl
    fun_induction discardFrom caps phase conn with
    | case1 phase conn error t hread => exact .readError hread
    | case2 phase conn packet t hread error hdrive => exact .malformed hread hdrive
    | case3 phase conn packet t hread hdrive => exact .finished hread hdrive
    | case4 phase conn packet t hread phase' hphase hdrive ih =>
      exact .next hread hdrive (fun h ↦ hphase h) ih

/-- Over a transport that comes to an end, so does this. -/
theorem discardsPending_iff : DiscardsPending conn result ↔ discardPending conn = result := by
  rw [discardPending_apply]
  constructor
  · intro h
    cases h with
    | broken hvalid => rw [if_pos hvalid]
    | settled hvalid hphase => rw [hvalid, if_neg (by simp), hphase]
    | pending hvalid hphase hdiscards =>
      rw [hvalid, if_neg (by simp), hphase]
      exact discardsFrom_iff.mp hdiscards
  · rintro rfl
    cases hvalid : conn.isValid with
    | false => exact .broken hvalid
    | true =>
      rw [if_neg (by simp)]
      cases hphase : conn.pending.phase with
      | none => exact .settled hvalid hphase
      | some phase => exact .pending hvalid hphase (discardsFrom_iff.mpr rfl)

end Connection

end SqlClient
