import SqlClient.Transport

namespace SqlClient

/-- The capabilities of a session are those negotiated before it: no call changes them. -/
class LawfulTransport (τ : Type) [Transport τ] : Prop where
  capabilities_writeCommand (packet : Bytes) (t : τ) :
    Transport.capabilities (Transport.writeCommand packet t).2 = Transport.capabilities t
  capabilities_readPacket (t : τ) :
    Transport.capabilities (Transport.readPacket t).2 = Transport.capabilities t

instance : LawfulTransport PacketStream where
  capabilities_writeCommand _ _ := rfl
  capabilities_readPacket _ := rfl

instance : LawfulTransport ScriptedTransport where
  capabilities_writeCommand packet scripted := by
    simp only [Transport.capabilities, Transport.writeCommand, ScriptedTransport.writeCommand]
    split <;> rfl
  capabilities_readPacket scripted := by
    simp only [Transport.capabilities, Transport.readPacket, ScriptedTransport.readPacket]
    split <;> rfl

section Takes

variable {τ : Type} [Transport τ]

/-- Reads hand out the packets one after the other and lead from the first state of the transport to
the last. -/
inductive Takes : τ → List Bytes → τ → Prop
  | nil (t : τ) : Takes t [] t
  | cons {t t' t'' : τ} {packet : Bytes} {packets : List Bytes} :
      Transport.readPacket t = (.ok packet, t') → Takes t' packets t'' →
      Takes t (packet :: packets) t''

theorem Takes.one {t t' : τ} {packet : Bytes} (h : Transport.readPacket t = (.ok packet, t')) :
    Takes t [packet] t' :=
  .cons h (.nil t')

theorem Takes.append {t t' t'' : τ} {packets packets' : List Bytes} (h : Takes t packets t')
    (h' : Takes t' packets' t'') : Takes t (packets ++ packets') t'' := by
  induction h with
  | nil => exact h'
  | cons hread _ ih => exact .cons hread (ih h')

theorem Takes.split {t t'' : τ} {packets packets' : List Bytes}
    (h : Takes t (packets ++ packets') t'') :
    ∃ t', Takes t packets t' ∧ Takes t' packets' t'' := by
  induction packets generalizing t with
  | nil => exact ⟨t, .nil t, h⟩
  | cons packet packets ih =>
    cases h with
    | cons hread hrest =>
      obtain ⟨t', ht, ht'⟩ := ih hrest
      exact ⟨t', .cons hread ht, ht'⟩

theorem Takes.capabilities_eq [LawfulTransport τ] {t t' : τ} {packets : List Bytes}
    (h : Takes t packets t') : Transport.capabilities t' = Transport.capabilities t := by
  induction h with
  | nil => rfl
  | @cons t t' _ _ _ hread _ ih =>
    rw [ih, ← LawfulTransport.capabilities_readPacket t, hread]

end Takes

section Upcoming

variable {τ : Type} [FiniteTransport τ]

def upcoming (t : τ) : List Bytes :=
  match _h : Transport.readPacket t with
  | (.ok packet, t') => packet :: upcoming t'
  | (.error _, _) => []
termination_by FiniteTransport.backlog t
decreasing_by exact FiniteTransport.backlog_of_readPacket _h

theorem upcoming_of_ok {t t' : τ} {packet : Bytes}
    (h : Transport.readPacket t = (.ok packet, t')) : upcoming t = packet :: upcoming t' := by
  rw [upcoming]
  split
  · next h' => cases h.symm.trans h'; rfl
  · next h' => cases h.symm.trans h'

theorem upcoming_of_error {t t' : τ} {error : Error}
    (h : Transport.readPacket t = (.error error, t')) : upcoming t = [] := by
  rw [upcoming]
  split
  · next h' => cases h.symm.trans h'
  · rfl

def firstFailure (t : τ) : Error :=
  match _h : Transport.readPacket t with
  | (.ok _, t') => firstFailure t'
  | (.error error, _) => error
termination_by FiniteTransport.backlog t
decreasing_by exact FiniteTransport.backlog_of_readPacket _h

theorem firstFailure_of_ok {t t' : τ} {packet : Bytes}
    (h : Transport.readPacket t = (.ok packet, t')) : firstFailure t = firstFailure t' := by
  rw [firstFailure]
  split
  · next h' => cases h.symm.trans h'; rfl
  · next h' => cases h.symm.trans h'

theorem firstFailure_of_error {t t' : τ} {error : Error}
    (h : Transport.readPacket t = (.error error, t')) : firstFailure t = error := by
  rw [firstFailure]
  split
  · next h' => cases h.symm.trans h'
  · next h' => cases h.symm.trans h'; rfl

theorem takes_upcoming (t : τ) :
    ∃ t' t'', Takes t (upcoming t) t' ∧ Transport.readPacket t' = (.error (firstFailure t), t'') := by
  fun_induction upcoming t with
  | case1 t packet t' hread ih =>
    obtain ⟨t₁, t₂, htakes, hfail⟩ := ih
    exact ⟨t₁, t₂, .cons hread htakes, by rw [hfail, firstFailure_of_ok hread]⟩
  | case2 t error t' hread => exact ⟨t, t', .nil t, by rw [hread, firstFailure_of_error hread]⟩

theorem Takes.upcoming_eq {t t' : τ} {packets : List Bytes} (h : Takes t packets t') :
    upcoming t = packets ++ upcoming t' := by
  induction h with
  | nil => rfl
  | cons hread _ ih => rw [upcoming_of_ok hread, ih, List.cons_append]

theorem Takes.firstFailure_eq {t t' : τ} {packets : List Bytes} (h : Takes t packets t') :
    firstFailure t = firstFailure t' := by
  induction h with
  | nil => rfl
  | cons hread _ ih => rw [firstFailure_of_ok hread, ih]

theorem Takes.length_add_backlog_le {t t' : τ} {packets : List Bytes} (h : Takes t packets t') :
    packets.length + FiniteTransport.backlog t' ≤ FiniteTransport.backlog t := by
  induction h with
  | nil => simp
  | cons hread _ ih =>
    have hless := FiniteTransport.backlog_of_readPacket hread
    rw [List.length_cons]
    omega

end Upcoming

inductive Call
  | write (packet : Bytes) (outcome : Except Error Unit)
  | read (result : Except Error Bytes)

def Call.reads (packets : List Bytes) (last : Except Error Bytes) : List Call :=
  (packets.map fun packet ↦ .read (.ok packet)) ++ [.read last]

/-- A transport under observation: it keeps the calls it has seen, oldest first. -/
structure Observed (τ : Type) where
  inner : τ
  calls : List Call := []

def Call.packet? : Call → Option Bytes
  | .read (.ok packet) => some packet
  | _ => none

def Call.failure? : Call → Option Error
  | .write _ (.error error) | .read (.error error) => some error
  | .write _ (.ok ()) | .read (.ok _) => none

namespace Observed

variable {τ : Type}

def packets (observed : Observed τ) : List Bytes :=
  observed.calls.filterMap Call.packet?

instance [Transport τ] : Transport (Observed τ) where
  capabilities observed := Transport.capabilities observed.inner
  writeCommand packet observed :=
    let (result, inner) := Transport.writeCommand packet observed.inner
    (result, ⟨inner, observed.calls ++ [.write packet result.1]⟩)
  readPacket observed :=
    let (result, inner) := Transport.readPacket observed.inner
    (result, ⟨inner, observed.calls ++ [.read result]⟩)

instance [FiniteTransport τ] : FiniteTransport (Observed τ) where
  backlog observed := FiniteTransport.backlog observed.inner
  backlog_of_readPacket {observed observed' payload} h := by
    obtain ⟨hresult, rfl⟩ := Prod.mk.inj h
    exact FiniteTransport.backlog_of_readPacket (Prod.ext hresult rfl)

instance [Transport τ] [LawfulTransport τ] : LawfulTransport (Observed τ) where
  capabilities_writeCommand packet observed :=
    LawfulTransport.capabilities_writeCommand packet observed.inner
  capabilities_readPacket observed := LawfulTransport.capabilities_readPacket observed.inner

theorem calls_of_readPacket [Transport τ] {observed observed' : Observed τ}
    {result : Except Error Bytes} (h : Transport.readPacket observed = (result, observed')) :
    observed'.calls = observed.calls ++ [.read result] := by
  cases h
  rfl

theorem calls_of_takes [Transport τ] {t t' t'' : Observed τ}
    {packets : List Bytes} {last : Except Error Bytes} (h : Takes t packets t')
    (hlast : Transport.readPacket t' = (last, t'')) :
    t''.calls = t.calls ++ Call.reads packets last := by
  induction h with
  | nil => exact calls_of_readPacket hlast
  | cons hread _ ih =>
    rw [ih hlast, calls_of_readPacket hread, List.append_assoc]
    rfl

theorem calls_of_writeCommand [Transport τ] {observed observed' : Observed τ} {packet back : Bytes}
    {outcome : Except Error Unit}
    (h : Transport.writeCommand packet observed = ((outcome, back), observed')) :
    observed'.calls = observed.calls ++ [.write packet outcome] := by
  obtain ⟨hresult, rfl⟩ := Prod.mk.inj h
  have houtcome : _ = outcome := congrArg Prod.fst hresult
  rw [← houtcome]

end Observed

end SqlClient
