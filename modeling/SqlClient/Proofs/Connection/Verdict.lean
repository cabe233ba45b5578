import SqlClient.Proofs.Connection.Keeps

namespace SqlClient

open Response

class BreakingTransport (τ : Type) [Transport τ] : Prop where
  breaks_of_writeCommand {packet back : Bytes} {t t' : τ} {error : Error} :
    Transport.writeCommand packet t = ((.error error, back), t') → error.breaksConnection = true
  breaks_of_readPacket {t t' : τ} {error : Error} :
    Transport.readPacket t = (.error error, t') → error.breaksConnection = true

instance : BreakingTransport PacketStream where
  breaks_of_writeCommand {packet back t t' error} h := by
    change (((Packet.write packet t.stream).outcome, _), _) = _ at h
    have houtcome : (Packet.write packet t.stream).outcome = .error error :=
      congrArg (·.1.1) h
    obtain ⟨-, text, rfl⟩ | ⟨cause, rfl⟩ := Packet.error_of_write houtcome
    · rfl
    · rfl
  breaks_of_readPacket {t t' error} h := by
    have hresult : (Packet.read t.stream).1.map Prod.snd = .error error := congrArg Prod.fst h
    unfold Packet.read at hresult
    split at hresult
    · cases hresult
    · cases hresult
      rfl

/-- The error says why the packet cannot be decoded as what its first byte makes it. -/
inductive Response.Undecodable (caps : Capabilities) (packet : Bytes) : Kind → Error → Prop
  | ok {error : Error} : kind packet = .ok .ok → OkResponse.decode caps packet = .error error →
      Undecodable caps packet .ok error
  | error {error : Error} : kind packet = .ok .error → ServerError.decode packet = .error error →
      Undecodable caps packet .error error

namespace Connection

variable {τ : Type}

def Accords (error : Error) (conn : Connection τ) : Prop :=
  conn.isValid = !error.breaksConnection

/-- What the error of a call says of the connection it leaves, for a call that is answered by the
packet `reply`, if it gets that far. -/
inductive Verdict [Transport τ] (reply : Option Bytes) (error : Error) (conn : Connection τ) : Prop
  | accords : Accords error conn → (∀ packet, reply = some packet → kind packet ≠ .ok .ok) →
      Verdict reply error conn
  | undecodableOk {packet : Bytes} : reply = some packet →
      Undecodable conn.capabilities packet .ok error → conn.isValid = true → Verdict reply error conn
  | undecodableError {packet : Bytes} : reply = some packet →
      Undecodable conn.capabilities packet .error error → Verdict reply error conn

theorem accords_invalidate {error : Error} (h : error.breaksConnection = true)
    (conn : Connection τ) : Accords error conn.invalidate := by
  rw [Accords, h]
  rfl

variable [Transport τ] {conn conn' : Connection τ} {packet : Bytes} {error : Error} {sql : String}

def reply? (command : Command) (conn : Connection τ) : Option Bytes :=
  match (send command *> readResponse) conn with
  | .ok packet _ => some packet
  | .error _ _ => none

theorem reply?_of_send {sent : Connection τ} {command : Command} {t : τ}
    (hsend : send command conn = .ok () sent)
    (hread : Transport.readPacket sent.transport = (.ok packet, t)) :
    conn.reply? command = some packet := by
  rw [reply?, seqRight_apply, hsend]
  dsimp only
  rw [readResponse_eq_ok.mpr ⟨t, hread, rfl⟩]

theorem exists_of_reply? {command : Command} (h : conn.reply? command = some packet) :
    ∃ sent t, send command conn = .ok () sent ∧
      Transport.readPacket sent.transport = (.ok packet, t) := by
  rw [reply?, seqRight_apply] at h
  cases hsend : send command conn with
  | error error sent =>
    rw [hsend] at h
    cases h
  | ok _ sent =>
    simp only [hsend, readResponse_apply] at h
    rcases hread : Transport.readPacket sent.transport with ⟨error | packet', t⟩
    · rw [hread] at h
      cases h
    · rw [hread] at h
      cases h
      exact ⟨sent, t, rfl, hread⟩

theorem answer_of_send {α : Type} {command : Command} {answer : Bytes → Action τ α}
    {sent : Connection τ} {t : τ} (hsend : send command conn = .ok () sent)
    (hread : Transport.readPacket sent.transport = (.ok packet, t)) :
    ((send command *> readResponse) >>= answer) conn =
      answer packet { sent with transport := t } := by
  have hresponse : readResponse sent = .ok packet { sent with transport := t } :=
    readResponse_eq_ok.mpr ⟨t, hread, rfl⟩
  rw [bind_apply, seqRight_apply, hsend]
  dsimp only
  rw [hresponse]

theorem exec_apply (sql : String) (conn : Connection τ) :
    exec sql conn = ((send (.query sql) *> readResponse) >>= execAnswer) conn := by
  rw [bind_apply, seqRight_apply]
  cases hsend : send (.query sql) conn with
  | ok _ sent =>
    rw [exec_of_send hsend]
    dsimp only
    cases readResponse sent <;> rfl
  | error error sent => rw [exec_of_send_error hsend]

def pingAnswer (packet : Bytes) : Action τ Unit := do
  match ← orFail (kind packet) with
  | .ok => return
  | .error => throw (Error.ofResponse packet)
  | .eof | .resultSet => fail .invalidPacket

theorem ping_apply (conn : Connection τ) :
    ping conn = ((send .ping *> readResponse) >>= pingAnswer) conn := by
  rw [ping, bind_apply, bind_apply, seqRight_apply]
  cases send .ping conn with
  | error error sent => rfl
  | ok _ sent =>
    dsimp only
    rw [bind_apply]
    cases readResponse sent <;> rfl

omit [Transport τ] in
theorem pingAnswer_of_isError (h : isError packet) (conn : Connection τ) :
    pingAnswer packet conn = .error (Error.ofResponse packet) conn := by
  rw [pingAnswer, bind_apply, orFail_apply, kind_of_isError h]
  rfl

theorem verdict_of_kind (hkind : kind packet ≠ .ok .ok) (h : Accords error conn) :
    Verdict (some packet) error conn := by
  refine .accords h ?_
  rintro _ ⟨⟩
  exact hkind

theorem verdict_of_none (h : Accords error conn) : Verdict none error conn :=
  .accords h fun _ hnone ↦ by cases hnone

theorem verdict_ofResponse (hvalid : conn.isValid = true) (hkind : kind packet = .ok .error) :
    Verdict (some packet) (Error.ofResponse packet) conn := by
  cases hdecode : ServerError.decode packet with
  | ok report =>
    rw [ofResponse_of_serverError hdecode]
    exact verdict_of_kind (by simp [hkind]) hvalid
  | error error =>
    have heq : Error.ofResponse packet = error := by rw [Error.ofResponse, hdecode]
    rw [heq]
    exact .undecodableError rfl (.error hkind hdecode)

theorem verdict_execAnswer (hvalid : conn.isValid = true)
    (h : execAnswer packet conn = .error error conn') : Verdict (some packet) error conn' := by
  rw [execAnswer_apply] at h
  cases hkind : kind packet with
  | error failure =>
    rw [hkind, kind_eq_error hkind] at h
    cases h
    exact verdict_of_kind (by simp [hkind]) (accords_invalidate rfl conn)
  | ok kind =>
    rw [hkind] at h
    cases kind with
    | ok =>
      cases hdecode : OkResponse.decode conn.capabilities packet with
      | ok ok =>
        rw [hdecode] at h
        cases h
      | error failure =>
        rw [hdecode] at h
        cases h
        exact .undecodableOk rfl (.ok hkind hdecode) hvalid
    | error =>
      cases h
      exact verdict_ofResponse hvalid hkind
    | eof =>
      cases h
      exact verdict_of_kind (by simp [hkind]) (accords_invalidate rfl conn)
    | resultSet =>
      refine verdict_of_kind (by simp [hkind]) ?_
      dsimp only at h
      split at h
      · cases h
        exact accords_invalidate rfl conn
      split at h
      · next hcount =>
        cases h
        exact accords_invalidate (Decoder.plain_lenencInt.breaksConnection hcount) conn
      · cases h
        exact hvalid

theorem verdict_pingAnswer (hvalid : conn.isValid = true)
    (h : pingAnswer packet conn = .error error conn') : Verdict (some packet) error conn' := by
  rw [pingAnswer, bind_apply, orFail_apply] at h
  cases hkind : kind packet with
  | error failure =>
    rw [hkind, kind_eq_error hkind] at h
    cases h
    exact verdict_of_kind (by simp [hkind]) (accords_invalidate rfl conn)
  | ok kind =>
    rw [hkind] at h
    cases kind with
    | ok => cases h
    | error =>
      cases h
      exact verdict_ofResponse hvalid hkind
    | eof | resultSet =>
      cases h
      exact verdict_of_kind (by simp [hkind]) (accords_invalidate rfl conn)

theorem kind_ne_ok_of_ping (h : ping conn = .error error conn')
    (hreply : reply? .ping conn = some packet) : kind packet ≠ .ok .ok := by
  intro hkind
  rw [ping_apply, bind_apply] at h
  unfold reply? at hreply
  cases hpacket : (send .ping *> readResponse) conn with
  | error failure conn₁ =>
    rw [hpacket] at hreply
    cases hreply
  | ok packet' conn₁ =>
    rw [hpacket] at h hreply
    cases hreply
    simp only [pingAnswer, bind_apply, orFail_apply, hkind, pure_apply] at h
    cases h

section Breaking

variable [BreakingTransport τ]

theorem accords_send (command : Command) (conn : Connection τ) :
    Ends (·.isValid = true) Accords (send command conn) := by
  refine ends_send id id ?_
  intro hready outcome packet t hwrite
  cases outcome with
  | ok _ => exact hready.valid
  | error error => exact accords_invalidate (BreakingTransport.breaks_of_writeCommand hwrite) _

theorem keeps_accords_readResponse :
    Keeps (·.isValid = true) Accords (readResponse : Action τ Bytes) := by
  apply keeps_readResponse
  intro conn result t h hread
  cases result with
  | ok packet => exact h
  | error error => exact accords_invalidate (BreakingTransport.breaks_of_readPacket hread) _

/-- Ahead of the rows an error breaks the connection unless it is one of the server's. -/
theorem keeps_accords_readHeaderOrFail :
    Keeps (·.isValid = true) Accords (readHeaderOrFail : Action τ (Option (List Column))) := by
  -- A server's error can only come from a packet: what the transport fails with is no such error.
  have hread : Keeps (·.isValid = true) (fun error conn ↦ error.breaksConnection = true ∨
      (∃ report, error = .server report) ∧ conn.isValid = true) (readResponse : Action τ Bytes) := by
    apply keeps_readResponse
    intro conn result t h hread
    cases result with
    | ok packet => exact h
    | error error => exact .inl (BreakingTransport.breaks_of_readPacket hread)
  have hheader := hread.readResultHeader (fun _ _ h ↦ h) ?_
    (fun caps packet error h _ _ ↦ .inl ((plain_okResponse caps).breaksConnection h))
    (fun packet error h _ _ ↦ .inl (plain_column.breaksConnection h))
    (fun packet error h _ _ ↦ .inl (plain_eofResponse.breaksConnection h))
  · refine keeps_readHeaderOrFail hheader ?_ ?_
    · rintro report conn (hbreaks | ⟨-, hvalid⟩)
      · cases hbreaks
      · exact hvalid
    · rintro error conn (hbreaks | ⟨⟨report, rfl⟩, -⟩) hother
      · exact accords_invalidate hbreaks conn
      · exact absurd rfl (hother report)
  · intro packet error h conn hvalid
    obtain ⟨rfl, -⟩ | hbreaks := header_error_cases h
    · obtain ⟨report, -, hreport⟩ | hbreaks := ofResponse_cases packet
      · exact .inr ⟨⟨report, hreport⟩, hvalid⟩
      · exact .inl hbreaks
    · exact .inl hbreaks

theorem accords_query (sql : String) (conn : Connection τ) :
    (conn.query sql).Ends (·.isValid = true) Accords :=
  ((accords_send (.query sql) conn).bind fun _ ↦ keeps_accords_readHeaderOrFail).query
    fun _ _ h ↦ h

theorem DiscardsPending.accords {result : EStateM.Result Error (Connection τ) Unit}
    (h : DiscardsPending conn result) : Ends (·.isValid = true) Accords result := by
  refine h.ends keeps_accords_readResponse id (fun _ _ h ↦ h) ?_ id
  intro caps phase packet error _ hdrive conn _
  exact accords_invalidate (Discard.breaksConnection_of_drive hdrive) conn

theorem verdict_of_answer {α : Type} {command : Command} {answer : Bytes → Action τ α}
    (hanswer : ∀ {packet conn error conn'}, conn.isValid = true →
      answer packet conn = .error error conn' → Verdict (some packet) error conn')
    (h : ((send command *> readResponse) >>= answer) conn = .error error conn') :
    Verdict (reply? command conn) error conn' := by
  have hreply : Ends (·.isValid = true) Accords
      ((send command *> readResponse : Action τ Bytes) conn) :=
    (accords_send command conn).bind fun _ ↦ keeps_accords_readResponse
  rw [bind_apply] at h
  unfold reply?
  cases hpacket : (send command *> readResponse) conn with
  | error failure conn₁ =>
    rw [hpacket] at h hreply
    cases h
    exact verdict_of_none hreply
  | ok packet conn₁ =>
    rw [hpacket] at h hreply
    exact hanswer hreply h

theorem verdict_exec (h : exec sql conn = .error error conn') :
    Verdict (reply? (.query sql) conn) error conn' :=
  verdict_of_answer verdict_execAnswer ((exec_apply sql conn).symm.trans h)

theorem verdict_ping (h : ping conn = .error error conn') :
    Verdict (reply? .ping conn) error conn' :=
  verdict_of_answer verdict_pingAnswer ((ping_apply conn).symm.trans h)

end Breaking

end Connection

end SqlClient
