import SqlClient.Proofs.Connection.Verdict

namespace SqlClient.Connection

open Response

variable {τ : Type} [Transport τ]

/-- Reading a packet preserves `I` or ends in `E`, and so does what is made of the packet. -/
structure Invariant (I : Connection τ → Prop) (E : Error → Connection τ → Prop) : Prop where
  read : Keeps I E (readResponse : Action τ Bytes)
  setPending (conn : Connection τ) (pending : Pending) : I conn → I { conn with pending }
  throw {error : Error} {conn : Connection τ} : I conn → FromPacket error → E error conn
  reject {conn : Connection τ} : I conn → E resultSetError conn
  invalidate {error : Error} {conn : Connection τ} : E error conn → E error conn.invalidate

variable {I : Connection τ → Prop} {E : Error → Connection τ → Prop} {conn : Connection τ}

namespace Invariant

theorem fail (h : Invariant I E) {error : Error} (herror : FromPacket error) (conn : Connection τ)
    (hconn : I conn) : E error conn.invalidate :=
  h.invalidate (h.throw hconn herror)

theorem execAnswer (h : Invariant I E) (packet : Bytes) : Keeps I E (execAnswer packet) := by
  refine (keeps_orFail fun error herror ↦ ?_).bind fun kind ↦ ?_
  · rw [kind_eq_error herror]
    exact h.fail .invalidPacket
  cases kind with
  | ok =>
    refine keeps_get.bind fun conn ↦ ?_
    refine (keeps_liftExcept fun error herror conn hconn ↦ ?_).bind fun ok ↦ ?_
    · exact h.throw hconn (fromPacket_of_plain (plain_okResponse _) herror)
    · exact (keeps_noteMoreResults h.setPending _).bind fun _ ↦ keeps_pure _
  | error =>
    apply keeps_throw
    intro conn hconn
    exact h.throw hconn (fromPacket_ofResponse packet)
  | eof => exact keeps_fail (h.fail .invalidPacket)
  | resultSet =>
    dsimp only
    split
    · exact keeps_fail_bind (h.fail .localInfile)
    · refine (keeps_orFail fun error herror ↦ ?_).bind fun count ↦ ?_
      · exact h.fail (fromPacket_of_plain Decoder.plain_lenencInt herror)
      · refine (keeps_modify fun conn hconn ↦ h.setPending conn _ hconn).bind fun _ ↦ ?_
        apply keeps_throw
        intro conn hconn
        exact h.reject hconn

theorem pingAnswer (h : Invariant I E) (packet : Bytes) : Keeps I E (pingAnswer packet) := by
  refine (keeps_orFail fun error herror ↦ ?_).bind fun kind ↦ ?_
  · rw [kind_eq_error herror]
    exact h.fail .invalidPacket
  cases kind with
  | ok => exact keeps_pure _
  | error =>
    apply keeps_throw
    intro conn hconn
    exact h.throw hconn (fromPacket_ofResponse packet)
  | eof | resultSet => exact keeps_fail (h.fail .invalidPacket)

theorem readHeaderOrFail (h : Invariant I E) : Keeps I E readHeaderOrFail := by
  have hheader := h.read.readResultHeader h.setPending
    (fun _ _ herror _ hconn ↦ h.throw hconn (fromPacket_of_header herror))
    (fun caps _ _ herror _ hconn ↦
      h.throw hconn (fromPacket_of_plain (plain_okResponse caps) herror))
    (fun _ _ herror _ hconn ↦ h.throw hconn (fromPacket_of_plain plain_column herror))
    fun _ _ herror _ hconn ↦ h.throw hconn (fromPacket_of_plain plain_eofResponse herror)
  exact keeps_readHeaderOrFail hheader (fun _ _ h ↦ h) fun _ _ hfailed _ ↦ h.invalidate hfailed

theorem exec (h : Invariant I E) {sql : String} (hsend : Ends I E (send (.query sql) conn)) :
    Ends I E (exec sql conn) := by
  rw [exec_apply]
  exact (hsend.bind fun _ ↦ h.read).bind h.execAnswer

theorem ping (h : Invariant I E) (hsend : Ends I E (send .ping conn)) : Ends I E (ping conn) := by
  rw [ping_apply]
  exact (hsend.bind fun _ ↦ h.read).bind h.pingAnswer

theorem query (h : Invariant I E) {sql : String} (hsend : Ends I E (send (.query sql) conn)) :
    (conn.query sql).Ends I E :=
  (hsend.bind fun _ ↦ h.readHeaderOrFail).query h.setPending

theorem close (h : Invariant I E) (hsend : Keeps I E (send .quit)) : Keeps I E close := by
  refine keeps_get.bind fun conn ↦ ?_
  split
  · exact (keeps_modify fun conn hconn ↦ h.setPending conn _ hconn).bind fun _ ↦ hsend
  · exact keeps_pure _

theorem discardsPending (h : Invariant I E) {result : EStateM.Result Error (Connection τ) Unit}
    (hdiscards : DiscardsPending conn result)
    (hbroken : conn.isValid = false → E .connectionBroken conn)
    (hconn : conn.isValid = true → I conn) : Ends I E result := by
  refine hdiscards.ends h.read hbroken h.setPending ?_ hconn
  intro caps phase packet error hphase hdrive
  exact h.fail (Discard.fromPacket_of_drive hphase hdrive)

end Invariant

end SqlClient.Connection
