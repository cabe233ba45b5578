import SqlClient.Proofs.Cursor.Simulation

namespace SqlClient

open Connection

inductive Request : Type 1
  | exec (sql : String)
  | query (sql : String) (operations : List Cursor.Operation)
  | ping
  | discardPending

inductive Reply : Type 1
  | exec (result : Except Error OkResponse)
  | query (result : Except Error (List ((operation : Cursor.Operation) × operation.Answer)))
  | ping (result : Except Error Unit)
  | discardPending (result : Except Error Unit)

structure Entry : Type 1 where
  reply : Reply
  isValid : Bool
  hasPendingResult : Bool

def Connection.outcome {τ α : Type} : EStateM.Result Error (Connection τ) α → Except Error α
  | .ok a _ => .ok a
  | .error error _ => .error error

def Connection.QueryResult.reply {τ : Type} [Transport τ] (operations : List Cursor.Operation) :
    QueryResult τ → Reply × Connection τ
  | .error failure conn => (.query (.error failure), conn)
  | .cursor rows => (.query (.ok (rows.answers operations)), (rows.after operations).release)

section Transcript

variable {τ : Type} [FiniteTransport τ]

def Request.run (conn : Connection τ) : Request → Reply × Connection τ
  | exec sql =>
    let result := Connection.exec sql conn
    (.exec (outcome result), afterwards result)
  | query sql operations => (conn.query sql).reply operations
  | ping =>
    let result := Connection.ping conn
    (.ping (outcome result), afterwards result)
  | discardPending =>
    let result := Connection.discardPending conn
    (.discardPending (outcome result), afterwards result)

def transcript : List Request → Connection τ → List Entry
  | [], _ => []
  | request :: requests, conn =>
    let served := request.run conn
    ⟨served.1, served.2.isValid, served.2.hasPendingResult⟩ :: transcript requests served.2

end Transcript

namespace Connection

variable {τ τ' : Type} {R : τ → τ' → Prop} {conn : Connection τ} {conn' : Connection τ'}

theorem SameResult.outcome_eq {α : Type} {result : EStateM.Result Error (Connection τ) α}
    {result' : EStateM.Result Error (Connection τ') α} (h : SameResult R result result') :
    outcome result = outcome result' ∧ Alike R (afterwards result) (afterwards result') := by
  cases h with
  | ok a hconn => exact ⟨rfl, hconn⟩
  | error error hconn => exact ⟨rfl, hconn⟩

theorem SameQuery.reply [Transport τ] [Transport τ'] (hR : Simulates R) {result : QueryResult τ}
    {result' : QueryResult τ'} (h : SameQuery R result result')
    (operations : List Cursor.Operation) :
    (result.reply operations).1 = (result'.reply operations).1 ∧
      Alike R (result.reply operations).2 (result'.reply operations).2 := by
  cases h with
  | error error hconn => exact ⟨rfl, hconn⟩
  | @cursor rows rows' hrows =>
    obtain ⟨hanswers, stream, hstream, hlast⟩ := hrows.answers (ResultSet.simulates hR) operations
    refine ⟨congrArg (fun answers ↦ Reply.query (.ok answers)) hanswers, ?_⟩
    change Alike R (rows.after operations).release (rows'.after operations).release
    rw [Cursor.release, Cursor.release, hlast]
    exact hstream.conn

variable [FiniteTransport τ] [FiniteTransport τ'] (hR : Simulates R)
include hR

theorem Alike.run (h : Alike R conn conn') (request : Request) :
    (request.run conn).1 = (request.run conn').1 ∧
      Alike R (request.run conn).2 (request.run conn').2 := by
  cases request with
  | exec sql =>
    obtain ⟨houtcome, hconn⟩ := (mirrors_exec hR sql h).outcome_eq
    exact ⟨congrArg Reply.exec houtcome, hconn⟩
  | query sql operations => exact (h.query hR sql).reply hR operations
  | ping =>
    obtain ⟨houtcome, hconn⟩ := (mirrors_ping hR h).outcome_eq
    exact ⟨congrArg Reply.ping houtcome, hconn⟩
  | discardPending =>
    obtain ⟨houtcome, hconn⟩ := (mirrors_discardPending hR h).outcome_eq
    exact ⟨congrArg Reply.discardPending houtcome, hconn⟩

theorem Alike.transcript_eq (h : Alike R conn conn') (requests : List Request) :
    transcript requests conn = transcript requests conn' := by
  induction requests generalizing conn conn' with
  | nil => rfl
  | cons request requests ih =>
    obtain ⟨hreply, hconn⟩ := h.run hR request
    have hpending : (request.run conn).2.hasPendingResult = (request.run conn').2.hasPendingResult := by
      rw [hasPendingResult, hasPendingResult, hconn.pending_eq]
    rw [transcript, transcript, hreply, hconn.isValid_eq, hpending, ih hconn]

end Connection

/-- The framing of the payloads, the numbers of the parts and the fates of the writes do not show. -/
theorem transcript_frames (requests : List Request) (payloads : List Bytes)
    (sequence : Nat → Nat → UInt8) (stream : ByteStream) (capabilities : Capabilities) :
    transcript requests
        (ofStream { stream with incoming := Packet.frames sequence payloads } capabilities) =
      transcript requests (ofTransport ({ payloads, stream, capabilities } : PayloadQueue)) := by
  have hcarries : PacketStream.Carries sequence
      ⟨{ stream with incoming := Packet.frames sequence payloads }, capabilities⟩
      { payloads, stream, capabilities } := ⟨⟨0, rfl⟩, rfl, rfl⟩
  have halike : Alike (PacketStream.Carries sequence)
      (ofStream { stream with incoming := Packet.frames sequence payloads } capabilities)
      (ofTransport { payloads, stream, capabilities }) := ⟨hcarries, rfl, rfl⟩
  exact halike.transcript_eq (PacketStream.simulates_queue sequence) requests

end SqlClient
