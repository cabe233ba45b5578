import Mathlib.Data.List.Basic
import SqlClient.Proofs.Transport.Writing

namespace SqlClient

namespace ByteStream

/-- The stream takes `accepted` writes more and nothing of those after them. It refuses no flush. -/
def limited (accepted : Nat) (cause : IoError) (stream : ByteStream) : ByteStream :=
  { stream with
    refuses := refusingAfter (stream.writes + accepted) cause
    partly := fun _ ↦ 0
    refusesFlush := fun _ ↦ none }

section Limited

variable {cause : IoError} {stream : ByteStream}

theorem write_limited_zero (piece : Bytes) :
    (stream.limited 0 cause).write piece =
      (.error cause, { stream.limited 0 cause with writes := stream.writes + 1 }) := by
  simp [write, torn, limited, refusingAfter]

theorem write_limited_succ (accepted : Nat) (piece : Bytes) :
    (stream.limited (accepted + 1) cause).write piece = (.ok (), limited accepted cause
      { stream with writes := stream.writes + 1, sent := stream.sent ++ [piece] }) := by
  have hlimit : stream.writes + (accepted + 1) = stream.writes + 1 + accepted := by omega
  have hfate : ¬ stream.writes + 1 + accepted ≤ stream.writes := by omega
  simp [write, limited, refusingAfter, hlimit, hfate]

/-- The pieces go out up to the call that is refused. -/
theorem writeAll_limited (accepted : Nat) (pieces : List Bytes) :
    (stream.limited accepted cause).writeAll pieces =
      if pieces.length ≤ accepted then
        (.ok (), { stream.limited accepted cause with
          writes := stream.writes + pieces.length, sent := stream.sent ++ pieces })
      else (.error cause, { stream.limited accepted cause with
          writes := stream.writes + (accepted + 1), sent := stream.sent ++ pieces.take accepted }) := by
  induction pieces generalizing stream accepted with
  | nil => simp [writeAll, limited]
  | cons piece pieces ih =>
    cases accepted with
    | zero =>
      rw [writeAll, write_limited_zero]
      simp [limited]
    | succ accepted =>
      have hwrites (count : Nat) : stream.writes + 1 + count = stream.writes + (count + 1) := by
        omega
      rw [writeAll, write_limited_succ]
      dsimp only
      rw [ih]
      simp only [limited, hwrites, List.length_cons, Nat.add_le_add_iff_right, List.take_succ_cons,
        List.append_assoc, List.singleton_append]

theorem transmit_limited (accepted : Nat) (pieces : List Bytes) :
    (stream.limited accepted cause).transmit pieces =
      if pieces.length ≤ accepted then
        (.ok (), { stream.limited accepted cause with
          writes := stream.writes + pieces.length, sent := stream.sent ++ pieces
          flushes := stream.flushes + 1 })
      else (.error cause, { stream.limited accepted cause with
          writes := stream.writes + (accepted + 1), sent := stream.sent ++ pieces.take accepted }) := by
  rw [transmit, writeAll_limited]
  by_cases henough : pieces.length ≤ accepted
  · simp [henough, flush, limited]
  · simp [henough]

end Limited

end ByteStream

namespace Packet

def chunk (payload : Bytes) (index : Nat) : Bytes :=
  (payload.drop (index * maxPayload)).take maxPayload

def chunkCount (length : Nat) : Nat :=
  (length + (maxPayload - 1)) / maxPayload

/-- What goes out for a payload, call by call. One part goes out with its header; of several, header
and bytes go out by turns, and behind a last part that is full the header of an empty one. -/
def framing (payload : Bytes) : List Bytes :=
  if payload.length < maxPayload then [Header.encode ⟨payload.length, 0⟩ ++ payload]
  else
    ((List.range (chunkCount payload.length)).flatMap fun index ↦
      [Header.encode ⟨(chunk payload index).length, UInt8.ofNat index⟩, chunk payload index]) ++
    if payload.length % maxPayload = 0 then
      [Header.encode ⟨0, UInt8.ofNat (chunkCount payload.length)⟩]
    else []

def callCount (length : Nat) : Nat :=
  if length < maxPayload then 1
  else 2 * chunkCount length + if length % maxPayload = 0 then 1 else 0

theorem length_framing (payload : Bytes) : (framing payload).length = callCount payload.length := by
  unfold framing callCount
  split
  · rfl
  · rw [List.length_append, List.length_flatMap]
    congr 1
    · simp [List.map_const', Nat.mul_comm]
    · split <;> rfl

theorem length_chunk (payload : Bytes) (index : Nat) :
    (chunk payload index).length = min maxPayload (payload.length - index * maxPayload) := by
  rw [chunk, List.length_take, List.length_drop]

theorem chunk_zero (payload : Bytes) : chunk payload 0 = payload.take maxPayload := by
  rw [chunk, Nat.zero_mul, List.drop_zero]

theorem chunk_drop (payload : Bytes) :
    chunk (payload.drop maxPayload) = chunk payload ∘ Nat.succ := by
  funext index
  rw [Function.comp_apply, chunk, chunk, List.drop_drop, Nat.succ_mul, Nat.add_comm]

/-- The full parts, and one more. -/
theorem parts_eq (payload : Bytes) :
    parts payload = (List.range (payload.length / maxPayload + 1)).map (chunk payload) := by
  fun_induction parts payload with
  | case1 payload hlast =>
    rw [Nat.div_eq_of_lt hlast, List.range_one, List.map_singleton, chunk_zero,
      List.take_of_length_le (Nat.le_of_lt hlast)]
  | case2 payload hmore ih =>
    have hcount : payload.length / maxPayload =
        (payload.length - maxPayload) / maxPayload + 1 :=
      Nat.div_eq_sub_div (by decide) (Nat.le_of_not_lt hmore)
    rw [hcount, List.range_succ_eq_map, List.map_cons, List.map_map, chunk_zero, ih,
      List.length_drop, chunk_drop]

theorem pieces_eq (payload : Bytes) :
    pieces payload = (List.range (payload.length / maxPayload + 1)).flatMap fun index ↦
      if (chunk payload index).isEmpty then [headerFor (chunk payload index) index]
      else [headerFor (chunk payload index) index, chunk payload index] := by
  have hindex (count : Nat) : ((List.range count).map (chunk payload)).zipIdx =
      (List.range count).map fun index ↦ (chunk payload index, index) := by
    apply List.ext_getElem
    · simp
    · simp
  rw [pieces, parts_eq, hindex, List.flatMap_map]

theorem chunkCount_of_dvd {length : Nat} (h : length % maxPayload = 0) :
    chunkCount length = length / maxPayload := by
  unfold chunkCount maxPayload at *
  omega

theorem chunkCount_of_not_dvd {length : Nat} (h : length % maxPayload ≠ 0) :
    chunkCount length = length / maxPayload + 1 := by
  unfold chunkCount maxPayload at *
  omega

theorem isEmpty_chunk {payload : Bytes} {index : Nat} :
    (chunk payload index).isEmpty = true ↔ payload.length ≤ index * maxPayload := by
  have hlength := length_chunk payload index
  rw [List.isEmpty_iff_length_eq_zero, hlength]
  unfold maxPayload
  omega

/-- The calls that are made for a payload are those of its framing. -/
theorem calls_eq_framing (payload : Bytes) : calls payload = framing payload := by
  unfold calls framing
  by_cases hone : payload.length < maxPayload
  · rw [if_pos hone, if_pos hone]
    rfl
  have hfull : ∀ index ∈ List.range (payload.length / maxPayload),
      (if (chunk payload index).isEmpty then [headerFor (chunk payload index) index]
        else [headerFor (chunk payload index) index, chunk payload index]) =
      [headerFor (chunk payload index) index, chunk payload index] := by
    intro index hindex
    have hlt : index * maxPayload < payload.length := by
      have hlt := List.mem_range.mp hindex
      unfold maxPayload at *
      omega
    rw [if_neg (by rw [isEmpty_chunk]; omega)]
  rw [if_neg hone, if_neg hone, pieces_eq, List.range_succ, List.flatMap_append,
    List.flatMap_congr hfull, List.flatMap_singleton]
  by_cases hdvd : payload.length % maxPayload = 0
  · have hempty : chunk payload (payload.length / maxPayload) = [] := by
      rw [← List.isEmpty_iff, isEmpty_chunk]
      unfold maxPayload at *
      omega
    rw [if_pos hdvd, chunkCount_of_dvd hdvd, hempty]
    rfl
  · have hlast : ¬ (chunk payload (payload.length / maxPayload)).isEmpty = true := by
      rw [isEmpty_chunk]
      unfold maxPayload at *
      omega
    rw [if_neg hdvd, if_neg hlast, chunkCount_of_not_dvd hdvd, List.range_succ, List.flatMap_append,
      List.flatMap_singleton, List.append_nil]
    rfl

theorem flatten_framing (payload : Bytes) :
    (framing payload).flatten = frame UInt8.ofNat payload := by
  rw [← calls_eq_framing, flatten_calls]

/-- A command on a stream that takes `accepted` calls more gets through exactly if that is enough for
its framing, and is flushed only then. If it is not, one more call is made, and what has gone out is the
front of the framing. The payload stays as it is in front of the writer; the room in front of it holds
the header of a single part afterwards, even if that could not be written. -/
theorem write_limited (room : Vector UInt8 reserve) (payload : Bytes) (stream : ByteStream)
    (accepted : Nat) (cause : IoError) :
    (framing payload).length = callCount payload.length ∧
      (framing payload).flatten = frame UInt8.ofNat payload ∧
      write (room.toList ++ payload) (stream.limited accepted cause) = {
        outcome := if callCount payload.length ≤ accepted then .ok () else .error (.io cause)
        packet := (if payload.length < maxPayload then Header.encode ⟨payload.length, 0⟩
          else room.toList) ++ payload
        stream := if callCount payload.length ≤ accepted then
            { stream.limited accepted cause with
              writes := stream.writes + callCount payload.length
              sent := stream.sent ++ framing payload
              flushes := stream.flushes + 1 }
          else
            { stream.limited accepted cause with
              writes := stream.writes + (accepted + 1)
              sent := stream.sent ++ (framing payload).take accepted } } := by
  refine ⟨length_framing payload, flatten_framing payload, ?_⟩
  rw [write_eq (by simp), ByteStream.transmit_limited, calls_eq_framing, length_framing]
  by_cases henough : callCount payload.length ≤ accepted
  · simp only [henough, if_true]
    rfl
  · simp only [henough, if_false]
    rfl

end Packet

end SqlClient
