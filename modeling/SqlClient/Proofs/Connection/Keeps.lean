import SqlClient.Proofs.Connection.Discarding
import SqlClient.Proofs.Connection.Opening

namespace SqlClient.Connection

variable {τ : Type} {α β : Type} {I : Connection τ → Prop} {E : Error → Connection τ → Prop}

def Ends (I : Connection τ → Prop) (E : Error → Connection τ → Prop) :
    EStateM.Result Error (Connection τ) α → Prop
  | .ok _ conn => I conn
  | .error error conn => E error conn

theorem Ends.of_error? {result : EStateM.Result Error (Connection τ) α} (h : Ends I E result)
    {error : Error} (herror : error? result = some error) : E error (afterwards result) := by
  cases result with
  | ok a conn => cases herror
  | error error' conn =>
    cases herror
    exact h

theorem Ends.afterwards {result : EStateM.Result Error (Connection τ) α} {P : Connection τ → Prop}
    (h : Ends I E result) (hI : ∀ conn, I conn → P conn) (hE : ∀ error conn, E error conn → P conn) :
    P (afterwards result) := by
  cases result with
  | ok a conn => exact hI conn h
  | error error conn => exact hE error conn h

theorem Ends.mono {result : EStateM.Result Error (Connection τ) α} {I' : Connection τ → Prop}
    {E' : Error → Connection τ → Prop} (h : Ends I E result) (hI : ∀ conn, I conn → I' conn)
    (hE : ∀ error conn, E error conn → E' error conn) : Ends I' E' result := by
  cases result with
  | ok a conn => exact hI conn h
  | error error conn => exact hE error conn h

def Keeps (I : Connection τ → Prop) (E : Error → Connection τ → Prop) (x : Action τ α) : Prop :=
  ∀ conn, I conn → Ends I E (x conn)

theorem Ends.bind {x : Action τ α} {f : α → Action τ β} {conn : Connection τ}
    (hx : Ends I E (x conn)) (hf : ∀ a, Keeps I E (f a)) : Ends I E ((x >>= f) conn) := by
  rw [bind_apply]
  cases hresult : x conn with
  | ok a conn' =>
    rw [hresult] at hx
    exact hf a conn' hx
  | error error conn' =>
    rw [hresult] at hx
    exact hx

theorem Keeps.bind {x : Action τ α} {f : α → Action τ β} (hx : Keeps I E x)
    (hf : ∀ a, Keeps I E (f a)) : Keeps I E (x >>= f) :=
  fun conn hconn ↦ (hx conn hconn).bind hf

theorem keeps_pure (a : α) : Keeps I E (pure a : Action τ α) :=
  fun _ hconn ↦ hconn

theorem keeps_get : Keeps I E (get : Action τ (Connection τ)) :=
  fun _ hconn ↦ hconn

theorem keeps_modify {f : Connection τ → Connection τ} (h : ∀ conn, I conn → I (f conn)) :
    Keeps I E (modify f : Action τ PUnit) :=
  h

theorem keeps_throw {error : Error} (h : ∀ conn, I conn → E error conn) :
    Keeps I E (throw error : Action τ α) :=
  h

theorem keeps_fail {error : Error} (h : ∀ conn, I conn → E error conn.invalidate) :
    Keeps I E (fail error : Action τ α) :=
  h

theorem keeps_fail_bind {error : Error} {f : α → Action τ β}
    (h : ∀ conn, I conn → E error conn.invalidate) : Keeps I E (fail error >>= f) :=
  h

theorem keeps_orFail {result : Except Error α}
    (h : ∀ error, result = .error error → ∀ conn, I conn → E error conn.invalidate) :
    Keeps I E (orFail result : Action τ α) := by
  cases result with
  | ok a => exact keeps_pure a
  | error error => exact h error rfl

theorem keeps_liftExcept {result : Except Error α}
    (h : ∀ error, result = .error error → ∀ conn, I conn → E error conn) :
    Keeps I E (liftExcept result : Action τ α) := by
  cases result with
  | ok a => exact keeps_pure a
  | error error => exact h error rfl

theorem keeps_noteMoreResults (h : ∀ conn pending, I conn → I { conn with pending })
    (status : Status) : Keeps I E (noteMoreResults status : Action τ Unit) := by
  unfold noteMoreResults
  split
  · exact keeps_modify fun conn ↦ h conn _
  · exact keeps_pure _

section Transport

variable [Transport τ]

/-- A command that comes too early leaves the connection as it was. -/
theorem ends_send {command : Command} {conn : Connection τ}
    (hbroken : conn.isValid = false → E .connectionBroken conn)
    (hpending : conn.isValid = true → E .resultSetPending conn)
    (hwrite : conn.Ready → ∀ outcome packet t,
      Transport.writeCommand (conn.room ++ command.encode) conn.transport = ((outcome, packet), t) →
      Ends I E (orFail outcome { conn with transport := t, writeBuffer := packet })) :
    Ends I E (send command conn) := by
  rw [send_apply]
  split
  · next hinvalid => exact hbroken hinvalid
  next hvalid =>
  split
  · exact hpending (by simpa using hvalid)
  next hsettled =>
  have hready : conn.Ready := ⟨by simpa using hvalid, by simpa [hasPendingResult] using hsettled⟩
  split
  · next h => exact hwrite hready _ _ _ h
  · next h => exact hwrite hready _ _ _ h

theorem keeps_readResponse
    (hread : ∀ conn result t, I conn → Transport.readPacket conn.transport = (result, t) →
      Ends I E (orFail result { conn with transport := t })) :
    Keeps I E (readResponse : Action τ Bytes) := by
  intro conn hconn
  rw [readResponse_apply]
  split
  · next h => exact hread conn _ _ hconn h
  · next h => exact hread conn _ _ hconn h

theorem Keeps.readColumns (hread : Keeps I E (readResponse : Action τ Bytes))
    (hcolumn : ∀ packet error, Column.decode packet = .error error →
      ∀ conn, I conn → E error conn) (count : Nat) :
    Keeps I E (readColumns count : Action τ (List Column)) := by
  induction count with
  | zero => exact keeps_pure _
  | succ count ih =>
    refine hread.bind fun packet ↦ ?_
    refine (keeps_liftExcept (hcolumn packet)).bind fun column ↦ ?_
    exact ih.bind fun columns ↦ keeps_pure _

theorem Keeps.readResultHeader (hread : Keeps I E (readResponse : Action τ Bytes))
    (hpending : ∀ conn pending, I conn → I { conn with pending })
    (hheader : ∀ packet error, Response.Header.decode packet = .error error →
      ∀ conn, I conn → E error conn)
    (hok : ∀ caps packet error, OkResponse.decode caps packet = .error error →
      ∀ conn, I conn → E error conn)
    (hcolumn : ∀ packet error, Column.decode packet = .error error →
      ∀ conn, I conn → E error conn)
    (heof : ∀ packet error, EofResponse.decode packet = .error error →
      ∀ conn, I conn → E error conn) :
    Keeps I E (readResultHeader : Action τ (Option (List Column))) := by
  refine keeps_get.bind fun conn ↦ ?_
  refine hread.bind fun packet ↦ ?_
  refine (keeps_liftExcept (hheader packet)).bind fun header ↦ ?_
  cases header with
  | ok payload =>
    refine (keeps_liftExcept (hok _ payload)).bind fun ok ↦ ?_
    exact (keeps_noteMoreResults hpending _).bind fun _ ↦ keeps_pure _
  | resultSet count =>
    refine (hread.readColumns hcolumn count).bind fun columns ↦ ?_
    dsimp only
    split
    · refine hread.bind fun packet ↦ ?_
      exact (keeps_liftExcept (heof packet)).bind fun _ ↦ keeps_pure _
    · exact keeps_pure _

theorem keeps_readHeaderOrFail {E' : Error → Connection τ → Prop}
    (h : Keeps I E' (readResultHeader : Action τ (Option (List Column))))
    (hserver : ∀ report conn, E' (.server report) conn → E (.server report) conn)
    (hother : ∀ error conn, E' error conn → (∀ report, error ≠ .server report) →
      E error conn.invalidate) :
    Keeps I E (readHeaderOrFail : Action τ (Option (List Column))) := by
  intro conn hconn
  have hresult := h conn hconn
  rw [readHeaderOrFail_apply]
  split
  · next heq =>
    rw [heq] at hresult
    exact hresult
  · next heq =>
    rw [heq] at hresult
    exact hserver _ _ hresult
  · next hne heq =>
    rw [heq] at hresult
    exact hother _ _ hresult hne

section Discarding

variable {result : EStateM.Result Error (Connection τ) Unit}

theorem DiscardsFrom.ends {caps : Capabilities} {phase : Discard.Phase} {conn : Connection τ}
    (h : DiscardsFrom caps phase conn result)
    (hread : Keeps I E (readResponse : Action τ Bytes))
    (hpending : ∀ conn pending, I conn → I { conn with pending })
    (hdrive : ∀ phase packet error, phase ≠ .finished →
      Discard.Phase.drive caps packet phase = .error error → ∀ conn, I conn → E error conn.invalidate)
    (hphase : phase ≠ .finished) (hconn : I conn) : Ends I E result := by
  induction h with
  | readError hpacket =>
    have hresponse := hread _ hconn
    rw [readResponse_apply, hpacket] at hresponse
    exact hresponse
  | malformed hpacket hfails =>
    have hresponse := hread _ hconn
    rw [readResponse_apply, hpacket] at hresponse
    exact hdrive _ _ _ hphase hfails _ hresponse
  | finished hpacket _ =>
    have hresponse := hread _ hconn
    rw [readResponse_apply, hpacket] at hresponse
    exact hpending _ _ hresponse
  | next hpacket _ hphase' _ ih =>
    have hresponse := hread _ hconn
    rw [readResponse_apply, hpacket] at hresponse
    exact ih hphase' hresponse

theorem DiscardsPending.ends {conn : Connection τ} (h : DiscardsPending conn result)
    (hread : Keeps I E (readResponse : Action τ Bytes))
    (hbroken : conn.isValid = false → E .connectionBroken conn)
    (hpending : ∀ conn pending, I conn → I { conn with pending })
    (hdrive : ∀ caps phase packet error, phase ≠ .finished →
      Discard.Phase.drive caps packet phase = .error error → ∀ conn, I conn → E error conn.invalidate)
    (hconn : conn.isValid = true → I conn) : Ends I E result := by
  cases h with
  | broken hinvalid => exact hbroken hinvalid
  | settled hvalid _ => exact hconn hvalid
  | pending hvalid hphase hdiscards =>
    refine hdiscards.ends hread hpending (hdrive _) ?_ (hconn hvalid)
    rintro rfl
    exact phase_ne_finished conn.pending hphase

end Discarding

def QueryResult.Ends (I : Connection τ → Prop) (E : Error → Connection τ → Prop) :
    QueryResult τ → Prop
  | .cursor rows => I rows.release ∧ rows.readError = none
  | .error failure conn => E failure conn

theorem Ends.query {sql : String} {conn : Connection τ}
    (h : Ends I E ((send (.query sql) *> readHeaderOrFail : Action τ (Option (List Column))) conn))
    (hpending : ∀ conn pending, I conn → I { conn with pending }) : (conn.query sql).Ends I E := by
  unfold Connection.query
  rcases hheader : (send (.query sql) *> readHeaderOrFail) conn with
    ⟨_ | columns, conn'⟩ | ⟨error, conn'⟩
  · rw [hheader] at h
    exact ⟨h, rfl⟩
  · rw [hheader] at h
    exact ⟨hpending _ _ h, rfl⟩
  · rw [hheader] at h
    exact h

end Transport

end SqlClient.Connection
