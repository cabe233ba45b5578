import SqlClient.Proofs.Connection.Sending
import SqlClient.Proofs.Cursor.Breaking
import SqlClient.Proofs.Session.Broken
import SqlClient.Proofs.Session.Transcript

namespace SqlClient

open Connection

namespace Connection

variable {start : ByteStream} {commands : List Command}

theorem Sent.next {resultSet : ResultSet PacketStream} (h : Sent start commands resultSet.conn) :
    Sent start commands resultSet.next.2.conn := by
  cases hopen : resultSet.finished with
  | true =>
    rw [ResultSet.next, if_pos hopen]
    exact h
  | false =>
    rcases hread : Transport.readPacket resultSet.conn.transport with ⟨result, t⟩
    obtain ⟨hsent, -⟩ := h.readPacket hread
    obtain ⟨packet, hnext, -⟩ | ⟨status, hnext, -⟩ | ⟨error, hnext, -⟩ :=
      ResultSet.next_cases hopen hread
    · rw [hnext]
      exact hsent
    · rw [hnext]
      exact hsent.setPending _
    · rw [hnext]
      unfold ResultSet.fail
      dsimp only
      split
      · exact hsent.invalidate
      · exact hsent.setPending _

section Cursor

variable {cursor : Cursor (ResultSet PacketStream)}

theorem Sent.perform (h : Sent start commands cursor.release) (operation : Cursor.Operation) :
    Sent start commands (cursor.perform operation).2.release := by
  obtain hnext | hreads | hsame := cursor.perform_cases operation
  · rw [hnext, Cursor.release]
    obtain hstream | hstream := cursor.stream_nextRow
    · rw [hstream]
      exact h
    · rw [hstream]
      exact h.next
  · rw [Cursor.release, hreads.stream_eq]
    exact h
  · rwa [hsame]

theorem Sent.after (h : Sent start commands cursor.release) (operations : List Cursor.Operation) :
    Sent start commands (cursor.after operations).release := by
  induction operations generalizing cursor with
  | nil => exact h
  | cons operation operations ih => exact ih (h.perform operation)

end Cursor

end Connection

def Reply.error? : Reply → Option Error
  | exec (.error error) | query (.error error) => some error
  | ping (.error error) | discardPending (.error error) => some error
  | exec (.ok _) | query (.ok _) | ping (.ok _) | discardPending (.ok _) => none

def Request.command? : Request → Option Command
  | exec sql | query sql _ => some (.query sql)
  | ping => some .ping
  | discardPending => none

inductive Turn : Type 1
  | call (request : Request)
  | reclaim
  | close

def Turn.isReclaim : Turn → Bool
  | reclaim => true
  | call _ | close => false

section Turns

variable {τ : Type} [FiniteTransport τ]

/-- Of a buffer that is too large the room for the header is left. -/
def Connection.reclaim (conn : Connection τ) : Connection τ :=
  { conn with writeBuffer := conn.room }

/-- The command that is sent, unless the request is refused. -/
def Request.accepted (conn : Connection τ) (request : Request) : List Command :=
  if (request.run conn).1.error?.any Error.isRefusal then [] else request.command?.toList

namespace Turn

def run (conn : Connection τ) : Turn → Connection τ
  | .call request => (request.run conn).2
  | .reclaim => conn.reclaim
  | .close => afterwards (Connection.close conn)

def accepted (conn : Connection τ) : Turn → List Command
  | .call request => request.accepted conn
  | .reclaim => []
  | .close => if conn.isValid then [.quit] else []

def after (turns : List Turn) (conn : Connection τ) : Connection τ :=
  turns.foldl run conn

def allAccepted : List Turn → Connection τ → List Command
  | [], _ => []
  | turn :: turns, conn => turn.accepted conn ++ allAccepted turns (turn.run conn)

end Turn

end Turns

section Outgoing

variable {conn : Connection PacketStream}

theorem Request.run_of_refuses {τ : Type} [FiniteTransport τ] {conn : Connection τ} {refusal : Error}
    (h : conn.Refuses refusal) (request : Request) (hcommand : request.command?.isSome) :
    (request.run conn).1.error? = some refusal ∧ (request.run conn).2 = conn := by
  cases request with
  | exec sql =>
    rw [run, h.exec sql]
    exact ⟨rfl, rfl⟩
  | query sql operations =>
    rw [run, h.query sql]
    exact ⟨rfl, rfl⟩
  | ping =>
    rw [run, h.ping]
    exact ⟨rfl, rfl⟩
  | discardPending => cases hcommand

theorem Reply.error?_exec {τ : Type} (result : EStateM.Result Error (Connection τ) OkResponse) :
    (Reply.exec (outcome result)).error? = Connection.error? result := by
  cases result <;> rfl

theorem Reply.error?_ping {τ : Type} (result : EStateM.Result Error (Connection τ) Unit) :
    (Reply.ping (outcome result)).error? = Connection.error? result := by
  cases result <;> rfl

theorem Reply.error?_discardPending {τ : Type}
    (result : EStateM.Result Error (Connection τ) Unit) :
    (Reply.discardPending (outcome result)).error? = Connection.error? result := by
  cases result <;> rfl

theorem Request.run_of_ready (hready : conn.Ready) (request : Request) :
    Sent conn.transport.stream request.command?.toList (request.run conn).2 ∧
      (request.command?.isSome → ∀ error, (request.run conn).1.error? = some error →
        error.isRefusal = false) := by
  cases request with
  | exec sql =>
    have hends := invariant_sent.exec (sent_send hready (.query sql))
    refine ⟨sent_afterwards hends, fun _ error herror ↦ ?_⟩
    exact (hends.of_error? ((Reply.error?_exec _).symm.trans herror)).2
  | query sql operations =>
    have hends := invariant_sent.query (sent_send hready (.query sql))
    unfold run
    dsimp only
    generalize conn.query sql = result at hends
    cases result with
    | cursor rows =>
      refine ⟨hends.1.after operations, fun _ error herror ↦ ?_⟩
      cases herror
    | error failure last =>
      refine ⟨hends.1, fun _ error herror ↦ ?_⟩
      cases herror
      exact hends.2
  | ping =>
    have hends := invariant_sent.ping (sent_send hready .ping)
    refine ⟨sent_afterwards hends, fun _ error herror ↦ ?_⟩
    exact (hends.of_error? ((Reply.error?_ping _).symm.trans herror)).2
  | discardPending => exact ⟨sent_discardPending conn, fun hcommand ↦ by cases hcommand⟩

theorem Request.accepted_eq (hready : conn.Ready) (request : Request) :
    request.accepted conn = request.command?.toList := by
  obtain ⟨-, hrefusal⟩ := request.run_of_ready hready
  cases hcommand : request.command? with
  | none =>
    rw [accepted, hcommand]
    exact ite_self []
  | some command =>
    rw [accepted, hcommand]
    cases herror : (request.run conn).1.error? with
    | none => rfl
    | some error =>
      have hcalm : error.isRefusal = false := hrefusal (by rw [hcommand]; rfl) error herror
      exact if_neg (by simp [hcalm])

theorem Request.accepted_of_refuses {refusal : Error} (h : conn.Refuses refusal)
    (hrefusal : refusal.isRefusal = true) {request : Request} (hcommand : request.command?.isSome) :
    request.accepted conn = [] ∧ (request.run conn).2 = conn := by
  obtain ⟨herror, hconn⟩ := run_of_refuses h request hcommand
  refine ⟨?_, hconn⟩
  rw [accepted, herror]
  exact if_pos hrefusal

theorem Request.sent_of_refuses {refusal : Error} (h : conn.Refuses refusal)
    (hrefusal : refusal.isRefusal = true) {request : Request} (hcommand : request.command?.isSome) :
    Sent conn.transport.stream (request.accepted conn) (request.run conn).2 := by
  obtain ⟨haccepted, hconn⟩ := accepted_of_refuses h hrefusal hcommand
  rw [haccepted, hconn]
  exact sent_refl conn

theorem Request.accepted_discardPending (conn : Connection PacketStream) :
    discardPending.accepted conn = [] :=
  ite_self []

theorem Request.sent_run (conn : Connection PacketStream) (request : Request) :
    Sent conn.transport.stream (request.accepted conn) (request.run conn).2 := by
  by_cases hready : conn.Ready
  · rw [request.accepted_eq hready]
    exact (request.run_of_ready hready).1
  obtain ⟨refusal, hrefuses, hrefusal⟩ :
      ∃ refusal, conn.Refuses refusal ∧ refusal.isRefusal = true := by
    obtain hrefuses | hrefuses := refuses_of_not_ready hready <;> exact ⟨_, hrefuses, rfl⟩
  cases request with
  | discardPending =>
    rw [accepted_discardPending]
    exact sent_discardPending conn
  | exec | query | ping => exact sent_of_refuses hrefuses hrefusal rfl

theorem Request.accepted_of_broken (hbroken : conn.isValid = false) (request : Request) :
    request.accepted conn = [] ∧ (request.run conn).2 = conn := by
  cases request with
  | discardPending =>
    refine ⟨accepted_discardPending conn, ?_⟩
    rw [run, discardPending_apply, if_pos hbroken]
    rfl
  | exec | query | ping => exact accepted_of_refuses (refuses_of_broken hbroken) rfl rfl

namespace Turn

theorem sent_run (conn : Connection PacketStream) (turn : Turn) :
    Sent conn.transport.stream (turn.accepted conn) (turn.run conn) := by
  cases turn with
  | call request => exact request.sent_run conn
  | reclaim => exact (sent_refl conn).setBuffer conn.room
  | close =>
    unfold accepted run
    cases hvalid : conn.isValid with
    | false =>
      rw [close_of_broken hvalid]
      exact sent_refl conn
    | true => exact sent_close hvalid

theorem accepted_of_broken (hbroken : conn.isValid = false) (turn : Turn) :
    turn.accepted conn = [] ∧ (turn.run conn).isValid = false := by
  cases turn with
  | call request =>
    obtain ⟨haccepted, hconn⟩ := request.accepted_of_broken hbroken
    refine ⟨haccepted, ?_⟩
    rw [run, hconn]
    exact hbroken
  | reclaim => exact ⟨rfl, hbroken⟩
  | close =>
    refine ⟨?_, ?_⟩
    · rw [accepted, hbroken]
      rfl
    · rw [run, close_of_broken hbroken]
      exact hbroken

theorem allAccepted_of_broken (hbroken : conn.isValid = false) (turns : List Turn) :
    allAccepted turns conn = [] ∧ (after turns conn).isValid = false := by
  induction turns generalizing conn with
  | nil => exact ⟨rfl, hbroken⟩
  | cons turn turns ih =>
    obtain ⟨hnone, hstill⟩ := accepted_of_broken hbroken turn
    obtain ⟨hrest, hlast⟩ := ih hstill
    refine ⟨?_, hlast⟩
    rw [allAccepted, hnone, hrest]
    rfl

theorem sent_after (turns : List Turn) (conn : Connection PacketStream) :
    Sent conn.transport.stream (allAccepted turns conn) (after turns conn) := by
  induction turns generalizing conn with
  | nil => exact sent_refl conn
  | cons turn turns ih =>
    exact (turn.sent_run conn).append (ih (turn.run conn)) fun hbroken ↦
      allAccepted_of_broken hbroken turns

section Alike

variable {τ τ' : Type} [FiniteTransport τ] [FiniteTransport τ'] {R : τ → τ' → Prop}
  (hR : Simulates R) {conn : Connection τ} {conn' : Connection τ'}
include hR

theorem alike_run (h : Alike R conn conn') (turn : Turn) :
    turn.accepted conn = turn.accepted conn' ∧ Alike R (turn.run conn) (turn.run conn') := by
  cases turn with
  | call request =>
    obtain ⟨hreply, hconn⟩ := h.run hR request
    refine ⟨?_, hconn⟩
    rw [accepted, accepted, Request.accepted, Request.accepted, hreply]
  | reclaim => exact ⟨rfl, h.setBuffer conn.room conn'.room⟩
  | close =>
    obtain ⟨-, hconn⟩ := (mirrors_close hR h).outcome_eq
    refine ⟨?_, hconn⟩
    rw [accepted, accepted, h.isValid_eq]

/-- It does not show whether the buffer is given back in between. -/
theorem alike_after_filter (h : Alike R conn conn') (turns : List Turn) :
    allAccepted turns conn = allAccepted (turns.filter (!·.isReclaim)) conn' ∧
      Alike R (after turns conn) (after (turns.filter (!·.isReclaim)) conn') := by
  induction turns generalizing conn conn' with
  | nil => exact ⟨rfl, h⟩
  | cons turn turns ih =>
    cases hturn : turn.isReclaim with
    | true =>
      cases turn with
      -- Only one side gives its buffer back, and connections that are alike need not share one.
      | reclaim => exact ih (h.setBuffer conn.room conn'.writeBuffer)
      | call | close => cases hturn
    | false =>
      obtain ⟨haccepted, hconn⟩ := alike_run hR h turn
      obtain ⟨hrest, hlast⟩ := ih hconn
      rw [List.filter_cons_of_pos (by rw [hturn]; rfl), allAccepted, allAccepted, haccepted, hrest]
      exact ⟨rfl, hlast⟩

end Alike

/-- What goes out is the commands that are not refused, each in its frame and in order: all of them
unless a write is refused, and else the front of them. What an earlier command left in the buffer does
not matter, nor where the buffer was given back. -/
theorem written_after (turns : List Turn) (conn : Connection PacketStream) :
    let stream := conn.transport.stream
    let last := (after turns conn).transport.stream
    let bytes := (allAccepted turns conn).flatMap Command.frame
    (∃ sent, last.written = stream.written ++ sent ∧ sent <+: bytes) ∧
      (stream.Accepted last → last.written = stream.written ++ bytes) ∧
      ∀ writeBuffer,
        let kept := turns.filter (!·.isReclaim)
        allAccepted kept { conn with writeBuffer } = allAccepted turns conn ∧
          (after kept { conn with writeBuffer }).transport.stream.written = last.written := by
  intro stream last bytes
  have hsent := sent_after turns conn
  refine ⟨hsent.exists_written, fun haccepted ↦ hsent.written_eq (.inr haccepted), ?_⟩
  intro writeBuffer kept
  have halike : Alike (fun session session' : PacketStream ↦ session = session') conn
      { conn with writeBuffer } := ⟨rfl, rfl, rfl⟩
  obtain ⟨haccepted, hlast⟩ := alike_after_filter PacketStream.simulates_self halike turns
  refine ⟨haccepted.symm, ?_⟩
  rw [← hlast.transport]

end Turn

end Outgoing

end SqlClient
