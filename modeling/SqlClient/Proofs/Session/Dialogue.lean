import SqlClient.Command
import SqlClient.Proofs.Response.WellFormed
import SqlClient.Proofs.Transport.Reads

namespace SqlClient

open Response

/-- A server. What it answers may depend on all the commands it was sent before, the latest of which
comes first. -/
structure Server where
  capabilities : Capabilities
  answer : List Bytes → Bytes → List Bytes
  handBack : Bytes → Bytes
  wellFormed_answer_query : ∀ earlier sql,
    WellFormed capabilities (answer earlier (Command.query sql).encode)
  answer_ping : ∀ earlier, ∃ packet, answer earlier Command.ping.encode = [packet] ∧
    (packet.head? = some okHeader ∨ ∃ report, ServerError.decode packet = .ok report)

inductive Event
  | command (payload : Bytes)
  | packet (payload : Bytes)

structure Dialogue (server : Server) where
  commands : List Bytes := []
  unread : List Bytes := []
  log : List Event := []

def Server.transcript (server : Server) : List Bytes → List Event
  | [] => []
  | command :: earlier =>
    server.transcript earlier ++ .command command :: (server.answer earlier command).map .packet

namespace Dialogue

variable {server : Server}

def writeCommand (packet : Bytes) (dialogue : Dialogue server) :
    (Except Error Unit × Bytes) × Dialogue server :=
  let command := packet.drop Packet.reserve
  ((.ok (), server.handBack packet), {
    commands := command :: dialogue.commands
    unread := dialogue.unread ++ server.answer dialogue.commands command
    log := dialogue.log ++ [.command command] })

def afterRead (dialogue : Dialogue server) (packet : Bytes) (unread : List Bytes) :
    Dialogue server :=
  { dialogue with unread, log := dialogue.log ++ [.packet packet] }

def readPacket (dialogue : Dialogue server) : Except Error Bytes × Dialogue server :=
  match dialogue.unread with
  | [] => (.error (.io .endOfStream), dialogue)
  | packet :: unread => (.ok packet, dialogue.afterRead packet unread)

theorem length_of_readPacket {dialogue dialogue' : Dialogue server} {packet : Bytes}
    (h : dialogue.readPacket = (.ok packet, dialogue')) :
    dialogue'.unread.length < dialogue.unread.length := by
  unfold readPacket at h
  split at h
  · cases h
  · next hunread =>
    cases h
    simp [hunread, afterRead]

instance : FiniteTransport (Dialogue server) where
  capabilities _ := server.capabilities
  writeCommand := writeCommand
  readPacket := readPacket
  backlog dialogue := dialogue.unread.length
  backlog_of_readPacket := length_of_readPacket

instance : LawfulTransport (Dialogue server) where
  capabilities_writeCommand _ _ := rfl
  capabilities_readPacket _ := rfl

theorem readPacket_of_unread {dialogue : Dialogue server} {packet : Bytes} {unread : List Bytes}
    (h : dialogue.unread = packet :: unread) :
    Transport.readPacket dialogue = (.ok packet, dialogue.afterRead packet unread) := by
  change readPacket dialogue = _
  rw [readPacket, h]

/-- Packets are read in the order of the answers they belong to, and no command is sent before the
answer to the one before it is read. -/
def Faithful (dialogue : Dialogue server) : Prop :=
  dialogue.log ++ dialogue.unread.map .packet = server.transcript dialogue.commands

theorem Faithful.afterRead {dialogue : Dialogue server} (h : dialogue.Faithful) {packet : Bytes}
    {unread : List Bytes} (hunread : dialogue.unread = packet :: unread) :
    (dialogue.afterRead packet unread).Faithful := by
  unfold Faithful at h
  rw [hunread] at h
  simpa [Faithful, Dialogue.afterRead] using h

theorem Faithful.writeCommand {dialogue : Dialogue server} (h : dialogue.Faithful)
    (hunread : dialogue.unread = []) (packet : Bytes) :
    (dialogue.writeCommand packet).2.Faithful := by
  unfold Faithful at h
  rw [hunread, List.map_nil, List.append_nil] at h
  simp [Faithful, Dialogue.writeCommand, Server.transcript, hunread, h]

theorem exists_takes {dialogue : Dialogue server} {packets unread : List Bytes}
    (h : dialogue.unread = packets ++ unread) :
    ∃ t, Takes dialogue packets t ∧ t.unread = unread ∧ t.commands = dialogue.commands ∧
      (dialogue.Faithful → t.Faithful) := by
  induction packets generalizing dialogue with
  | nil => exact ⟨dialogue, .nil dialogue, h, rfl, id⟩
  | cons packet packets ih =>
    have hbehind : (dialogue.afterRead packet (packets ++ unread)).unread = packets ++ unread := rfl
    obtain ⟨t, htakes, hunread, hcommands, hfaithful⟩ := ih hbehind
    exact ⟨t, .cons (readPacket_of_unread h) htakes, hunread, hcommands,
      fun hdialogue ↦ hfaithful (hdialogue.afterRead h)⟩

end Dialogue

end SqlClient
