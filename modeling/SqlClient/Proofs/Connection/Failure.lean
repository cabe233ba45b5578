import SqlClient.Proofs.Connection.Invariant

namespace SqlClient.Connection

variable {τ : Type} {start : List Call} {conn : Connection (Observed τ)}

/-- The connection has made no calls since `start` but such as satisfy `P`. -/
def Since (start : List Call) (P : Call → Prop) (conn : Connection (Observed τ)) : Prop :=
  ∃ calls, conn.transport.calls = start ++ calls ∧ ∀ call ∈ calls, P call

theorem since_of_eq {P : Call → Prop} (h : conn.transport.calls = start) : Since start P conn :=
  ⟨[], by rw [h, List.append_nil], by simp⟩

theorem Since.call {P : Call → Prop} (h : Since start P conn) {call : Call}
    (hmem : call ∈ conn.transport.calls.drop start.length) : P call := by
  obtain ⟨calls, hcalls, hall⟩ := h
  rw [hcalls, List.drop_left] at hmem
  exact hall call hmem

theorem Since.append {P : Call → Prop} {conn' : Connection (Observed τ)} {call : Call}
    (h : Since start P conn) (hcalls : conn'.transport.calls = conn.transport.calls ++ [call])
    (hcall : P call) : Since start P conn' := by
  obtain ⟨calls, hstart, hall⟩ := h
  refine ⟨calls ++ [call], ?_, ?_⟩
  · rw [hcalls, hstart, List.append_assoc]
  · intro call' hmem
    rcases List.mem_append.mp hmem with hmem | hmem
    · exact hall call' hmem
    · rw [List.mem_singleton.mp hmem]
      exact hcall

def Smooth (start : List Call) : Connection (Observed τ) → Prop :=
  Since start (·.failure? = none)

/-- A call that failed since `start` has broken the connection. -/
def Guarded (start : List Call) (conn : Connection (Observed τ)) : Prop :=
  Smooth start conn ∨ conn.isValid = false

theorem Guarded.isValid (h : Guarded start conn) {call : Call}
    (hmem : call ∈ conn.transport.calls.drop start.length) {failure : Error}
    (hfailure : call.failure? = some failure) : conn.isValid = false := by
  rcases h with hsmooth | hbroken
  · rw [hsmooth.call hmem] at hfailure
    cases hfailure
  · exact hbroken

variable [Transport τ]

theorem keeps_smooth_send (command : Command) :
    Keeps (Smooth start) (fun _ ↦ Guarded start) (send command : Action (Observed τ) Unit) := by
  intro conn hconn
  refine ends_send (fun _ ↦ .inl hconn) (fun _ ↦ .inl hconn) fun _ outcome packet t hwrite ↦ ?_
  cases outcome with
  | ok _ => exact hconn.append (Observed.calls_of_writeCommand hwrite) rfl
  | error error => exact .inr rfl

theorem keeps_smooth_readResponse :
    Keeps (Smooth start) (fun _ ↦ Guarded start) (readResponse : Action (Observed τ) Bytes) := by
  refine keeps_readResponse fun conn result t h hread ↦ ?_
  cases result with
  | ok packet => exact h.append (Observed.calls_of_readPacket hread) rfl
  | error error => exact .inr rfl

theorem invariant_smooth :
    Invariant (Smooth start) fun _ (conn : Connection (Observed τ)) ↦ Guarded start conn where
  read := keeps_smooth_readResponse
  setPending _ _ h := h
  throw h _ := .inl h
  reject h := .inl h
  invalidate _ := .inr rfl

theorem guarded_query (sql : String) (conn : Connection (Observed τ)) :
    (conn.query sql).Ends (Smooth conn.transport.calls) fun _ ↦ Guarded conn.transport.calls :=
  invariant_smooth.query (keeps_smooth_send (.query sql) conn (since_of_eq rfl))

theorem DiscardsPending.guarded {result : EStateM.Result Error (Connection (Observed τ)) Unit}
    (h : DiscardsPending conn result) : Guarded conn.transport.calls (afterwards result) := by
  have hstart : Smooth conn.transport.calls conn := since_of_eq rfl
  have hends := invariant_smooth.discardsPending h (fun _ ↦ .inl hstart) fun _ ↦ hstart
  exact hends.afterwards (fun _ h ↦ .inl h) fun _ _ h ↦ h

end SqlClient.Connection
