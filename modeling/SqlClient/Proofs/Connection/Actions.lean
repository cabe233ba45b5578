import SqlClient.Connection.Discard
import SqlClient.Connection.Query
import SqlClient.Proofs.Transport.Reads

namespace SqlClient.Connection

variable {τ : Type} {α β : Type}

def afterwards : EStateM.Result Error (Connection τ) α → Connection τ
  | .ok _ conn | .error _ conn => conn

@[simp]
theorem afterwards_ok (a : α) (conn : Connection τ) : afterwards (.ok a conn) = conn := rfl

@[simp]
theorem afterwards_error (error : Error) (conn : Connection τ) :
    afterwards (.error error conn : EStateM.Result Error (Connection τ) α) = conn := rfl

def error? : EStateM.Result Error (Connection τ) α → Option Error
  | .ok _ _ => none
  | .error error _ => some error

theorem eq_error_of_error? {result : EStateM.Result Error (Connection τ) α} {error : Error}
    (h : error? result = some error) : result = .error error (afterwards result) := by
  cases result with
  | ok a conn => cases h
  | error error' conn =>
    cases h
    rfl

structure Ready (conn : Connection τ) : Prop where
  valid : conn.isValid = true
  settled : conn.pending = .none

def QueryResult.error? : QueryResult τ → Option Error
  | .cursor _ => none
  | .error failure _ => some failure

section Monad

variable (conn : Connection τ)

theorem bind_apply (x : Action τ α) (f : α → Action τ β) :
    (x >>= f) conn = match x conn with
      | .ok a conn => f a conn
      | .error error conn => .error error conn := by
  change EStateM.bind x f conn = _
  unfold EStateM.bind
  cases x conn <;> rfl

theorem seqRight_apply (x : Action τ α) (y : Action τ β) :
    (x *> y) conn = match x conn with
      | .ok _ conn => y conn
      | .error error conn => .error error conn := by
  change (x >>= fun _ ↦ y) conn = _
  rw [bind_apply]

theorem bind_eq_ok {conn conn' : Connection τ} {x : Action τ α} {f : α → Action τ β} {b : β} :
    (x >>= f) conn = .ok b conn' ↔ ∃ a conn₁, x conn = .ok a conn₁ ∧ f a conn₁ = .ok b conn' := by
  rw [bind_apply]
  cases x conn with
  | error => simp
  | ok a conn₁ =>
    constructor
    · intro h
      exact ⟨a, conn₁, rfl, h⟩
    · rintro ⟨a', conn₁', heq, h⟩
      cases heq
      exact h

theorem bind_eq_error {conn conn' : Connection τ} {x : Action τ α} {f : α → Action τ β}
    {error : Error} :
    (x >>= f) conn = .error error conn' ↔ x conn = .error error conn' ∨
      ∃ a conn₁, x conn = .ok a conn₁ ∧ f a conn₁ = .error error conn' := by
  rw [bind_apply]
  cases x conn with
  | error => simp
  | ok a conn₁ =>
    constructor
    · intro h
      exact .inr ⟨a, conn₁, rfl, h⟩
    · rintro (h | ⟨_, _, ⟨⟩, h⟩)
      · cases h
      · exact h

theorem pure_apply (a : α) : (pure a : Action τ α) conn = .ok a conn := rfl

theorem get_apply : (get : Action τ (Connection τ)) conn = .ok conn conn := rfl

theorem set_apply (conn' : Connection τ) : (set conn' : Action τ PUnit) conn = .ok ⟨⟩ conn' := rfl

theorem throw_apply (error : Error) : (throw error : Action τ α) conn = .error error conn := rfl

end Monad

theorem fail_apply (conn : Connection τ) (error : Error) :
    (fail error : Action τ α) conn = .error error conn.invalidate := rfl

theorem orFail_apply (conn : Connection τ) (result : Except Error α) :
    orFail result conn = match result with
      | .ok a => .ok a conn
      | .error error => .error error conn.invalidate := by
  cases result <;> rfl

theorem liftExcept_apply (conn : Connection τ) (result : Except Error α) :
    liftExcept result conn = match result with
      | .ok a => .ok a conn
      | .error error => .error error conn := by
  cases result <;> rfl

theorem liftExcept_eq_ok {conn conn' : Connection τ} {result : Except Error α} {a : α} :
    liftExcept result conn = .ok a conn' ↔ result = .ok a ∧ conn' = conn := by
  cases result with
  | error => simp [liftExcept_apply]
  | ok => simp [liftExcept_apply, eq_comm]

theorem liftExcept_eq_error {conn conn' : Connection τ} {result : Except Error α} {error : Error} :
    liftExcept result conn = .error error conn' ↔ result = .error error ∧ conn' = conn := by
  cases result with
  | error => simp [liftExcept_apply, eq_comm]
  | ok => simp [liftExcept_apply]

theorem ensureReady_apply (conn : Connection τ) :
    ensureReady conn =
      if conn.isValid = false then .error .connectionBroken conn
      else if conn.hasPendingResult then .error .resultSetPending conn
      else .ok () conn := by
  unfold ensureReady
  cases hv : conn.isValid <;> cases hp : conn.hasPendingResult <;>
    simp [bind_apply, get_apply, hv, hp, throw_apply, pure_apply]

theorem noteMoreResults_apply (conn : Connection τ) (status : Status) :
    noteMoreResults status conn = .ok ()
      (if status.has Status.moreResults then { conn with pending := .nextResult } else conn) := by
  unfold noteMoreResults
  split <;> rfl

theorem length_room (conn : Connection τ) : conn.room.length = Packet.reserve := by
  simp [room]

section Transport

variable [Transport τ]

theorem readResponse_apply (conn : Connection τ) :
    readResponse conn = match Transport.readPacket conn.transport with
      | (.ok payload, transport) => .ok payload { conn with transport }
      | (.error error, transport) => .error error { conn with transport }.invalidate := by
  rcases h : Transport.readPacket conn.transport with ⟨_ | _, transport⟩ <;>
    simp only [readResponse, bind_apply, get_apply, set_apply, h, orFail_apply]

theorem readResponse_eq_ok {conn conn' : Connection τ} {packet : Bytes} :
    readResponse conn = .ok packet conn' ↔
      ∃ t, Transport.readPacket conn.transport = (.ok packet, t) ∧
        conn' = { conn with transport := t } := by
  rw [readResponse_apply]
  rcases Transport.readPacket conn.transport with ⟨error | packet', t⟩
  · simp
  · constructor
    · rintro ⟨⟩
      exact ⟨t, rfl, rfl⟩
    · rintro ⟨t', ⟨⟩, rfl⟩
      rfl

theorem readResponse_eq_error {conn conn' : Connection τ} {error : Error} :
    readResponse conn = .error error conn' ↔
      ∃ t, Transport.readPacket conn.transport = (.error error, t) ∧
        conn' = { conn with transport := t }.invalidate := by
  rw [readResponse_apply]
  rcases Transport.readPacket conn.transport with ⟨failure | packet, t⟩
  · constructor
    · rintro ⟨⟩
      exact ⟨t, rfl, rfl⟩
    · rintro ⟨t', ⟨⟩, rfl⟩
      rfl
  · simp

theorem send_apply (conn : Connection τ) (command : Command) :
    send command conn =
      if conn.isValid = false then .error .connectionBroken conn
      else if conn.hasPendingResult then .error .resultSetPending conn
      else match Transport.writeCommand (conn.room ++ command.encode) conn.transport with
        | ((.ok (), packet), transport) => .ok () { conn with transport, writeBuffer := packet }
        | ((.error error, packet), transport) =>
          .error error { conn with transport, writeBuffer := packet }.invalidate := by
  rw [send, bind_apply, ensureReady_apply]
  by_cases hvalid : conn.isValid = false
  · rw [if_pos hvalid, if_pos hvalid]
  rw [if_neg hvalid, if_neg hvalid]
  by_cases hpending : conn.hasPendingResult = true
  · rw [if_pos hpending, if_pos hpending]
  rw [if_neg hpending, if_neg hpending]
  simp only [bind_apply, get_apply, set_apply, orFail_apply]
  rcases Transport.writeCommand (conn.room ++ command.encode) conn.transport with
    ⟨⟨error | ⟨⟩, packet⟩, t⟩ <;> rfl

theorem send_of_broken {conn : Connection τ} (h : conn.isValid = false) (command : Command) :
    send command conn = .error .connectionBroken conn := by
  rw [send_apply, if_pos h]

theorem send_of_pending {conn : Connection τ} (hvalid : conn.isValid = true)
    (hpending : conn.pending ≠ .none) (command : Command) :
    send command conn = .error .resultSetPending conn := by
  rw [send_apply, if_neg (by simp [hvalid]), if_pos (by simpa [hasPendingResult] using hpending)]

theorem send_of_ready {conn : Connection τ} (h : conn.Ready) (command : Command) :
    send command conn =
      match Transport.writeCommand (conn.room ++ command.encode) conn.transport with
      | ((.ok (), packet), transport) => .ok () { conn with transport, writeBuffer := packet }
      | ((.error error, packet), transport) =>
        .error error { conn with transport, writeBuffer := packet }.invalidate := by
  rw [send_apply, if_neg (by simp [h.valid]), if_neg (by simp [hasPendingResult, h.settled])]

theorem send_eq_ok {conn sent : Connection τ} {command : Command} :
    send command conn = .ok () sent ↔ conn.Ready ∧ ∃ packet t,
      Transport.writeCommand (conn.room ++ command.encode) conn.transport = ((.ok (), packet), t) ∧
        sent = { conn with transport := t, writeBuffer := packet } := by
  constructor
  · intro h
    rw [send_apply] at h
    split at h
    · cases h
    next hvalid =>
    split at h
    · cases h
    next hsettled =>
    split at h
    · next packet t hwrite =>
      cases h
      exact ⟨⟨by simpa using hvalid, by simpa [hasPendingResult] using hsettled⟩,
        packet, t, hwrite, rfl⟩
    · cases h
  · rintro ⟨hready, packet, t, hwrite, rfl⟩
    rw [send_of_ready hready, hwrite]

theorem ready_of_send {conn sent : Connection τ} {command : Command}
    (h : send command conn = .ok () sent) : sent.Ready := by
  obtain ⟨hready, _, _, -, rfl⟩ := send_eq_ok.mp h
  exact ⟨hready.valid, hready.settled⟩

theorem capabilities_of_send [LawfulTransport τ] {conn sent : Connection τ} {command : Command}
    (h : send command conn = .ok () sent) : sent.capabilities = conn.capabilities := by
  obtain ⟨-, packet, t, hwrite, rfl⟩ := send_eq_ok.mp h
  have hcaps := LawfulTransport.capabilities_writeCommand (conn.room ++ command.encode) conn.transport
  rw [hwrite] at hcaps
  exact hcaps

end Transport

end SqlClient.Connection
