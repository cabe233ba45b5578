import SqlClient.Proofs.Connection.Discarding
import SqlClient.Proofs.Connection.Opening
import SqlClient.Proofs.Transport.Simulation

namespace SqlClient.Connection

variable {τ τ' : Type} {R : τ → τ' → Prop} {α β : Type}

/-- What is left in the buffers does not matter. -/
structure Alike (R : τ → τ' → Prop) (conn : Connection τ) (conn' : Connection τ') : Prop where
  transport : R conn.transport conn'.transport
  isValid_eq : conn.isValid = conn'.isValid
  pending_eq : conn.pending = conn'.pending

inductive SameResult (R : τ → τ' → Prop) :
    EStateM.Result Error (Connection τ) α → EStateM.Result Error (Connection τ') α → Prop
  | ok (a : α) {conn : Connection τ} {conn' : Connection τ'} :
      Alike R conn conn' → SameResult R (.ok a conn) (.ok a conn')
  | error (error : Error) {conn : Connection τ} {conn' : Connection τ'} :
      Alike R conn conn' → SameResult R (.error error conn) (.error error conn')

def Mirrors (R : τ → τ' → Prop) (x : Action τ α) (x' : Action τ' α) : Prop :=
  ∀ ⦃conn conn'⦄, Alike R conn conn' → SameResult R (x conn) (x' conn')

section Steps

variable {conn : Connection τ} {conn' : Connection τ'}

theorem Alike.invalidate (h : Alike R conn conn') : Alike R conn.invalidate conn'.invalidate :=
  ⟨h.transport, rfl, h.pending_eq⟩

theorem Alike.setPending (h : Alike R conn conn') (pending : Pending) :
    Alike R { conn with pending } { conn' with pending } :=
  ⟨h.transport, h.isValid_eq, rfl⟩

theorem Alike.setTransport (h : Alike R conn conn') {t : τ} {t' : τ'} (ht : R t t') :
    Alike R { conn with transport := t } { conn' with transport := t' } :=
  ⟨ht, h.isValid_eq, h.pending_eq⟩

theorem Alike.setBuffer (h : Alike R conn conn') (buffer buffer' : Bytes) :
    Alike R { conn with writeBuffer := buffer } { conn' with writeBuffer := buffer' } :=
  ⟨h.transport, h.isValid_eq, h.pending_eq⟩

theorem Mirrors.bind {x : Action τ α} {x' : Action τ' α} {f : α → Action τ β} {f' : α → Action τ' β}
    (hx : Mirrors R x x') (hf : ∀ a, Mirrors R (f a) (f' a)) : Mirrors R (x >>= f) (x' >>= f') := by
  intro conn conn' h
  have hresult := hx h
  rw [bind_apply, bind_apply]
  generalize x conn = result, x' conn' = result' at hresult
  cases hresult with
  | ok a hconn => exact hf a hconn
  | error error hconn => exact .error error hconn

theorem mirrors_pure (a : α) : Mirrors R (pure a) (pure a) :=
  fun _ _ h ↦ .ok a h

theorem mirrors_throw (error : Error) :
    Mirrors R (throw error : Action τ α) (throw error : Action τ' α) :=
  fun _ _ h ↦ .error error h

theorem mirrors_fail (error : Error) :
    Mirrors R (fail error : Action τ α) (fail error : Action τ' α) :=
  fun _ _ h ↦ .error error h.invalidate

theorem mirrors_get_bind {f : Connection τ → Action τ α} {f' : Connection τ' → Action τ' α}
    (h : ∀ ⦃conn conn'⦄, Alike R conn conn' → Mirrors R (f conn) (f' conn')) :
    Mirrors R (get >>= f) (get >>= f') :=
  fun _ _ hconn ↦ h hconn hconn

theorem mirrors_set (h : Alike R conn conn') :
    Mirrors R (set conn : Action τ PUnit) (set conn' : Action τ' PUnit) := by
  intro _ _ _
  rw [set_apply, set_apply]
  exact SameResult.ok _ h

theorem mirrors_setPending (pending : Pending) :
    Mirrors R (modify fun conn ↦ { conn with pending } : Action τ Unit)
      (modify fun conn ↦ { conn with pending }) :=
  fun _ _ h ↦ .ok () (h.setPending pending)

theorem mirrors_orFail (result : Except Error α) :
    Mirrors R (orFail result : Action τ α) (orFail result : Action τ' α) := by
  cases result with
  | ok a => exact mirrors_pure a
  | error error => exact mirrors_fail error

theorem mirrors_liftExcept (result : Except Error α) :
    Mirrors R (liftExcept result : Action τ α) (liftExcept result : Action τ' α) := by
  cases result with
  | ok a => exact mirrors_pure a
  | error error => exact mirrors_throw error

theorem mirrors_ensureReady : Mirrors R (ensureReady : Action τ Unit) ensureReady := by
  intro conn conn' h
  have hpending : conn.hasPendingResult = conn'.hasPendingResult := by
    rw [hasPendingResult, hasPendingResult, h.pending_eq]
  rw [ensureReady_apply, ensureReady_apply, h.isValid_eq, hpending]
  split
  · exact .error _ h
  · split
    · exact .error _ h
    · exact .ok () h

theorem mirrors_noteMoreResults (status : Status) :
    Mirrors R (noteMoreResults status : Action τ Unit) (noteMoreResults status) := by
  unfold noteMoreResults
  split
  · exact mirrors_setPending _
  · exact mirrors_pure _

end Steps

section Commands

variable [Transport τ] [Transport τ'] (hR : Simulates R)
include hR

theorem mirrors_send (command : Command) :
    Mirrors R (send command : Action τ Unit) (send command) := by
  refine mirrors_ensureReady.bind fun _ ↦ mirrors_get_bind fun conn conn' h ↦ ?_
  obtain ⟨houtcome, ht⟩ := hR.writeCommand h.transport conn.length_room conn'.length_room
    command.encode
  generalize Transport.writeCommand (conn.room ++ command.encode) conn.transport = written at *
  generalize Transport.writeCommand (conn'.room ++ command.encode) conn'.transport = written' at *
  obtain ⟨⟨outcome, buffer⟩, t⟩ := written
  obtain ⟨⟨outcome', buffer'⟩, t'⟩ := written'
  dsimp only at houtcome ht ⊢
  rw [houtcome]
  exact (mirrors_set ((h.setTransport ht).setBuffer buffer buffer')).bind fun _ ↦ mirrors_orFail outcome'

theorem mirrors_readResponse : Mirrors R (readResponse : Action τ Bytes) readResponse := by
  refine mirrors_get_bind fun conn conn' h ↦ ?_
  obtain ⟨next', hread', hnext⟩ := hR.exists_readPacket h.transport rfl
  rw [hread']
  exact (mirrors_set (h.setTransport hnext)).bind fun _ ↦ mirrors_orFail _

theorem Alike.capabilities_eq {conn : Connection τ} {conn' : Connection τ'} (h : Alike R conn conn') :
    conn.capabilities = conn'.capabilities :=
  hR.capabilities_eq h.transport

theorem mirrors_exec (sql : String) : Mirrors R (exec sql : Action τ OkResponse) (exec sql) := by
  refine (mirrors_send hR _).bind fun _ ↦ (mirrors_readResponse hR).bind fun packet ↦ ?_
  refine (mirrors_orFail _).bind fun kind ↦ ?_
  cases kind with
  | ok =>
    refine mirrors_get_bind fun conn conn' h ↦ ?_
    rw [h.capabilities_eq hR]
    refine (mirrors_liftExcept _).bind fun ok ↦ ?_
    exact (mirrors_noteMoreResults _).bind fun _ ↦ mirrors_pure _
  | error => exact mirrors_throw _
  | eof => exact mirrors_fail _
  | resultSet =>
    dsimp only
    split
    · exact (mirrors_fail _).bind fun _ ↦ (mirrors_orFail _).bind fun _ ↦
        (mirrors_setPending _).bind fun _ ↦ mirrors_throw _
    · exact (mirrors_orFail _).bind fun _ ↦ (mirrors_setPending _).bind fun _ ↦ mirrors_throw _

theorem mirrors_ping : Mirrors R (ping : Action τ Unit) ping := by
  refine (mirrors_send hR _).bind fun _ ↦ (mirrors_readResponse hR).bind fun packet ↦ ?_
  refine (mirrors_orFail _).bind fun kind ↦ ?_
  cases kind with
  | ok => exact mirrors_pure _
  | error => exact mirrors_throw _
  | eof | resultSet => exact mirrors_fail _

theorem mirrors_close : Mirrors R (close : Action τ Unit) close := by
  refine mirrors_get_bind fun conn conn' h ↦ ?_
  rw [h.isValid_eq]
  split
  · exact (mirrors_setPending .none).bind fun _ ↦ mirrors_send hR .quit
  · exact mirrors_pure ()

theorem mirrors_readColumns (count : Nat) :
    Mirrors R (readColumns count : Action τ (List Column)) (readColumns count) := by
  induction count with
  | zero => exact mirrors_pure _
  | succ count ih =>
    refine (mirrors_readResponse hR).bind fun packet ↦ (mirrors_liftExcept _).bind fun column ↦ ?_
    exact ih.bind fun columns ↦ mirrors_pure _

theorem mirrors_readResultHeader :
    Mirrors R (readResultHeader : Action τ (Option (List Column))) readResultHeader := by
  refine mirrors_get_bind fun conn conn' h ↦ ?_
  rw [h.capabilities_eq hR]
  refine (mirrors_readResponse hR).bind fun packet ↦ (mirrors_liftExcept _).bind fun header ↦ ?_
  cases header with
  | ok payload =>
    refine (mirrors_liftExcept _).bind fun ok ↦ ?_
    exact (mirrors_noteMoreResults _).bind fun _ ↦ mirrors_pure _
  | resultSet count =>
    refine (mirrors_readColumns hR count).bind fun columns ↦ ?_
    dsimp only
    split
    · refine (mirrors_readResponse hR).bind fun packet ↦ ?_
      exact (mirrors_liftExcept _).bind fun _ ↦ mirrors_pure _
    · exact mirrors_pure _

theorem mirrors_readHeaderOrFail :
    Mirrors R (readHeaderOrFail : Action τ (Option (List Column))) readHeaderOrFail := by
  intro conn conn' h
  have hheader := mirrors_readResultHeader hR h
  rw [readHeaderOrFail_apply, readHeaderOrFail_apply]
  generalize readResultHeader conn = result, readResultHeader conn' = result' at hheader
  cases hheader with
  | ok columns hconn => exact .ok columns hconn
  | error error hconn =>
    cases error with
    | server report => exact .error (.server report) hconn
    | _ => exact .error _ hconn.invalidate

end Commands

section Discarding

variable [FiniteTransport τ] [FiniteTransport τ'] (hR : Simulates R)
include hR

theorem mirrors_discardFrom (caps : Capabilities) (phase : Discard.Phase) :
    Mirrors R (discardFrom caps phase : Action τ Unit) (discardFrom caps phase) := by
  intro conn conn' h
  fun_induction discardFrom caps phase conn generalizing conn' with
  | case1 phase conn error t hread =>
    obtain ⟨t', hread', ht⟩ := hR.exists_readPacket h.transport hread
    rw [discardFrom_of_readError hread']
    exact .error error (h.setTransport ht).invalidate
  | case2 phase conn packet t hread error hdrive =>
    obtain ⟨t', hread', ht⟩ := hR.exists_readPacket h.transport hread
    rw [discardFrom_of_ok hread', hdrive]
    exact .error error (h.setTransport ht).invalidate
  | case3 phase conn packet t hread hdrive =>
    obtain ⟨t', hread', ht⟩ := hR.exists_readPacket h.transport hread
    rw [discardFrom_of_finished hread' hdrive]
    exact .ok () ((h.setTransport ht).setPending .none)
  | case4 phase conn packet t hread phase' hphase hdrive ih =>
    obtain ⟨t', hread', ht⟩ := hR.exists_readPacket h.transport hread
    rw [discardFrom_of_drive hread' hdrive hphase]
    exact ih (h.setTransport ht)

theorem mirrors_discardPending : Mirrors R (discardPending : Action τ Unit) discardPending := by
  intro conn conn' h
  rw [discardPending_apply, discardPending_apply, h.isValid_eq, h.pending_eq, h.capabilities_eq hR]
  split
  · exact .error _ h
  · cases conn'.pending.phase with
    | none => exact .ok () h
    | some phase => exact mirrors_discardFrom hR _ phase h

end Discarding

end SqlClient.Connection
