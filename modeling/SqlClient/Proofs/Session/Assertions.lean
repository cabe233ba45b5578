import SqlClient.Proofs.Connection.Assertions
import SqlClient.Proofs.Cursor.Advancing
import SqlClient.Proofs.Cursor.Complaints
import SqlClient.Proofs.Session.Discipline
import SqlClient.Proofs.Session.Outgoing

namespace SqlClient

open Connection Discard

namespace Cursor

def Operation.IsKnown : Operation → Prop
  | @nullValue α coercion | @value α coercion => Coercible α coercion
  | _ => True

theorem Operation.IsKnown.refusal {operation : Operation} (h : operation.IsKnown) {data : Bytes}
    {error : Error} (hrefusal : operation.refusal? data = some error) :
    error.isLibraryBug = false := by
  cases operation with
  | nullValue α | value α =>
    have hsound : Sound (FromText.fromText data : Except Error α) := Coercible.sound h data
    cases hcoerced : (FromText.fromText data : Except Error α) with
    | ok value => simp [refusal?, hcoerced] at hrefusal
    | error failure =>
      simp only [refusal?, hcoerced, Option.some.injEq] at hrefusal
      subst hrefusal
      exact hsound failure hcoerced
  | nextRow | nullBytes | bytes | decoded | columns | isExhausted | lastError => cases hrefusal

theorem valueError_cases {σ : Type} [RowStream σ] [LawfulRowStream σ] (stream : σ)
    (operations : List Operation) {error : Error}
    (h : ((ofStream stream).after operations).valueError = some error) :
    Response.FromPacket error ∨
      ∃ operation ∈ operations, ∃ data, operation.refusal? data = some error := by
  have hlast := ((Facing.ofStream stream).after operations).2
  rw [h] at hlast
  cases hcomplaints : (complaints stream ⟨0, 0⟩ operations).getLast? with
  | some latest =>
    rw [hcomplaints] at hlast
    cases hlast
    exact complaint_cases (List.mem_of_getLast? hcomplaints)
  | none =>
    rw [hcomplaints] at hlast
    cases hlast

structure Clean {τ : Type} (P : τ → Prop) (cursor : Cursor (ResultSet τ)) : Prop where
  reachable : On P cursor.release
  sound (error : Error) : cursor.readError = some error → error.isLibraryBug = false

theorem Clean.of_unbroken {τ : Type} {P : τ → Prop} {cursor : Cursor (ResultSet τ)}
    (hconn : On P cursor.release) (hunbroken : cursor.readError = none) : cursor.Clean P := by
  refine ⟨hconn, ?_⟩
  intro error herror
  rw [hunbroken] at herror
  cases herror

theorem Clean.read {τ : Type} [Transport τ] {P : τ → Prop} {cursor cursor' : Cursor (ResultSet τ)}
    (h : cursor.Clean P) (hread : cursor.Reads cursor') : cursor'.Clean P := by
  refine ⟨?_, ?_⟩
  · rw [release, hread.stream_eq]
    exact h.reachable
  · rw [hread.readError_eq]
    exact h.sound

end Cursor

namespace Safe

section Cursor

variable {τ : Type} [Transport τ] {P : τ → Prop} {cursor : Cursor (ResultSet τ)}

theorem nextRow (h : Safe P) (hcursor : cursor.Clean P) : cursor.nextRow.2.Clean P := by
  obtain ⟨hstill, hsound⟩ := h.next hcursor.reachable
  obtain ⟨-, hcall⟩ |
    ⟨-, ⟨packet, stream, hnext, hcall⟩ | ⟨stream, hnext, hcall⟩ | ⟨error, stream, hnext, hcall⟩⟩ :=
    cursor.nextRow_cases
  all_goals rw [hcall]
  · exact hcursor
  all_goals
    change cursor.stream.next = _ at hnext
    rw [hnext] at hstill hsound
  · exact ⟨hstill, hcursor.sound⟩
  · exact ⟨hstill, hcursor.sound⟩
  · refine ⟨hstill, ?_⟩
    rintro _ ⟨⟩
    exact hsound error rfl

theorem after (h : Safe P) (hcursor : cursor.Clean P) (operations : List Cursor.Operation) :
    (cursor.after operations).Clean P :=
  Cursor.after_induction (motive := fun _ ↦ Cursor.Clean P) h.nextRow .read ⟨0, 0⟩ hcursor
    operations

end Cursor

section Requests

variable {τ : Type} [FiniteTransport τ] {P : τ → Prop} {conn : Connection τ}

theorem request (h : Safe P) (hconn : On P conn) (request : Request) :
    On P (request.run conn).2 ∧
      ∀ error, (request.run conn).1.error? = some error → error.isLibraryBug = false := by
  have hcall {α : Type} {result : EStateM.Result Error (Connection τ) α}
      (hends : Ends (On P) (Blameless P) result) :
      On P (afterwards result) ∧
        ∀ error, Connection.error? result = some error → error.isLibraryBug = false :=
    ⟨hends.afterwards (fun _ h ↦ h) fun _ _ h ↦ h.1, fun _ herror ↦ (hends.of_error? herror).2⟩
  cases request with
  | exec sql =>
    rw [Request.run, Reply.error?_exec]
    exact hcall (h.exec sql hconn)
  | ping =>
    rw [Request.run, Reply.error?_ping]
    exact hcall (h.ping hconn)
  | discardPending =>
    rw [Request.run, Reply.error?_discardPending]
    exact hcall (h.discardsPending (discardsPending_iff.mpr rfl) hconn)
  | query sql operations =>
    have hends := h.query sql hconn
    rw [Request.run]
    generalize conn.query sql = result at hends
    cases result with
    | cursor rows =>
      have hclean : rows.Clean P := .of_unbroken hends.1 hends.2
      refine ⟨(h.after hclean operations).reachable, ?_⟩
      intro error herror
      cases herror
    | error failure last =>
      refine ⟨hends.1, ?_⟩
      rintro _ ⟨⟩
      exact hends.2

theorem turn (h : Safe P) (hconn : On P conn) (turn : Turn) : On P (turn.run conn) := by
  cases turn with
  | call request => exact (h.request hconn request).1
  | reclaim => exact hconn
  | close => exact (h.close hconn).afterwards (fun _ h ↦ h) fun _ _ h ↦ h.1

theorem turns (h : Safe P) (hconn : On P conn) (turns : List Turn) :
    On P (Turn.after turns conn) := by
  induction turns generalizing conn with
  | nil => exact hconn
  | cons turn turns ih => exact ih (h.turn hconn turn)

end Requests

end Safe

def Connection.observed {τ : Type} (conn : Connection τ) : Connection (Observed τ) :=
  { conn with transport := { inner := conn.transport } }

namespace Turn

/-- No request is answered with a failed assertion, nor does a cursor remember one, unless a
coercion of the caller's own reports it. Every command has room for its header, and the machine that
throws packets away is fed none once it has finished. -/
theorem no_libraryBug (turns : List Turn) (conn : Connection PacketStream) :
    let last := after turns conn
    let observed := after turns conn.observed
    (∀ (request : Request) (error : Error),
      (request.run last).1.error? = some error → error.isLibraryBug = false) ∧
    (∀ error, Connection.error? (Connection.close last) = some error → error.isLibraryBug = false) ∧
    (∀ sql rows, last.query sql = .cursor rows → ∀ operations error,
      (rows.after operations).readError = some error ∨
        (rows.after operations).valueError = some error → error.isLibraryBug = true →
      ∃ operation ∈ operations, ¬ operation.IsKnown ∧
        ∃ data, operation.refusal? data = some error) ∧
    (∀ packet outcome, .write packet outcome ∈ observed.transport.calls →
      Packet.reserve ≤ packet.length) ∧
    ∀ phase, observed.isValid = true → observed.pending.phase = some phase →
      phase ≠ .finished ∧ ∃ packets result phase',
        (afterwards (discardPending observed)).transport.calls =
          observed.transport.calls ++ Call.reads packets result ∧
        Passes observed.capabilities phase packets phase' ∧ phase' ≠ .finished := by
  intro last observed
  have hsafe := PacketStream.safe
  have hlast : On (fun _ ↦ True) last := trivial
  have hstart : On (fun observed : Observed PacketStream ↦
      True ∧ ∀ call ∈ observed.calls, call.IsRoomy) conn.observed := by
    refine ⟨trivial, ?_⟩
    intro call hmem
    cases hmem
  have hobserved := hsafe.observed.turns hstart turns
  refine ⟨?_, ?_, ?_, ?_, ?_⟩
  · intro request
    exact (hsafe.request hlast request).2
  · intro error herror
    exact ((hsafe.close hlast).of_error? herror).2
  · intro sql rows hquery operations error hrecorded hbug
    have hends := hsafe.query sql hlast
    rw [hquery] at hends
    have hclean := hsafe.after (.of_unbroken hends.1 hends.2) operations
    obtain hread | hvalue := hrecorded
    · rw [hclean.sound error hread] at hbug
      cases hbug
    -- A value that is refused is refused by a coercion, and those of the library blame the value.
    rw [Cursor.eq_ofStream_of_query hquery] at hvalue
    obtain hpacket | ⟨operation, hmem, data, hrefusal⟩ := Cursor.valueError_cases _ _ hvalue
    · rw [hpacket.isLibraryBug] at hbug
      cases hbug
    refine ⟨operation, hmem, ?_, data, hrefusal⟩
    intro hknown
    rw [hknown.refusal hrefusal] at hbug
    cases hbug
  · intro packet outcome hmem
    exact hobserved.2 _ hmem
  · intro phase hvalid hphase
    have hunfinished : phase ≠ .finished := by
      rintro rfl
      exact phase_ne_finished _ hphase
    refine ⟨hunfinished, ?_⟩
    have hdiscards :
        DiscardsFrom observed.capabilities phase observed (discardPending observed) := by
      rw [discardPending_apply, hvalid, if_neg (by simp), hphase]
      exact discardsFrom_iff.mpr rfl
    exact hdiscards.exists_passes hunfinished

def cutOff : Connection PacketStream :=
  ofStream
    { incoming := [1, 0, 0, 1, 1] ++
        [23, 0, 0, 2, 3, 0x64, 0x65, 0x66, 0, 0, 0, 1, 0x61, 0, 12, 33, 0, 4, 0, 0, 0, 3, 0, 0, 0,
          0, 0] ++
        [5, 0, 0, 3, 0xFE, 0, 0, 2, 0] ++ [2, 0, 0, 4, 1, 0x37] }
    (.ofFlags [Capabilities.protocol41])

/-- A coercion that blames the library. -/
@[reducible]
def blaming : FromText Unit :=
  ⟨fun _ ↦ .error (.libraryBug "not my fault")⟩

theorem no_libraryBug_cutOff :
    let turns : List Turn := [.reclaim, .call (.query "SELECT 7" [.nextRow])]
    let observed := after turns cutOff.observed
    let operations : List Cursor.Operation := [.nextRow, @Cursor.Operation.value Unit blaming]
    (∃ error, (Request.discardPending.run (after turns cutOff)).1.error? = some error ∧
      error.isLibraryBug = false) ∧
    (∃ rows, cutOff.query "SELECT 7" = .cursor rows ∧
      (rows.after operations).valueError = some (.libraryBug "not my fault") ∧
      ∃ operation ∈ operations, ¬ operation.IsKnown) ∧
    (∃ packet outcome, .write packet outcome ∈ observed.transport.calls ∧
      Packet.reserve ≤ packet.length) ∧
    ∃ packets result phase', (afterwards (discardPending observed)).transport.calls =
        observed.transport.calls ++ Call.reads packets result ∧
      Passes observed.capabilities .rows packets phase' := by
  intro turns observed operations
  obtain ⟨hrequests, -, -, hwrites, hdiscards⟩ := no_libraryBug turns cutOff
  obtain ⟨-, -, hcursors, -⟩ := no_libraryBug [] cutOff
  refine ⟨?_, ?_, ?_, ?_⟩
  · have herror : (Request.discardPending.run (after turns cutOff)).1.error? =
        some (.io .endOfStream) := by decide +kernel
    exact ⟨_, herror, hrequests _ _ herror⟩
  · have hvalue : (match cutOff.query "SELECT 7" with
        | .cursor rows => (rows.after operations).valueError
        | .error _ _ => none) = some (.libraryBug "not my fault") := by decide +kernel
    cases hquery : cutOff.query "SELECT 7" with
    | error error conn =>
      rw [hquery] at hvalue
      cases hvalue
    | cursor rows =>
      rw [hquery] at hvalue
      obtain ⟨operation, hmem, hunknown, -⟩ :=
        hcursors _ rows hquery operations _ (.inr hvalue) rfl
      exact ⟨rows, rfl, hvalue, operation, hmem, hunknown⟩
  · have hany : observed.transport.calls.any (!·.isRead) := by decide +kernel
    obtain ⟨call, hmem, hwrite⟩ := List.any_eq_true.mp hany
    cases call with
    | read result => cases hwrite
    | write packet outcome => exact ⟨packet, outcome, hmem, hwrites packet outcome hmem⟩
  · obtain ⟨-, packets, result, phase', hcalls, hpasses, -⟩ :=
      hdiscards .rows (by decide +kernel) (by decide +kernel)
    exact ⟨packets, result, phase', hcalls, hpasses⟩

end Turn

end SqlClient
