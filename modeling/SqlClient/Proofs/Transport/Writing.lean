import SqlClient.Proofs.Transport.Delivery

namespace SqlClient

namespace ByteStream

theorem write_incoming (piece : Bytes) (stream : ByteStream) (incoming : Bytes) :
    write piece { stream with incoming } =
      ((stream.write piece).1, { (stream.write piece).2 with incoming }) := by
  unfold write
  dsimp only
  split <;> rfl

theorem writeAll_incoming (pieces : List Bytes) (stream : ByteStream) (incoming : Bytes) :
    writeAll pieces { stream with incoming } =
      ((stream.writeAll pieces).1, { (stream.writeAll pieces).2 with incoming }) := by
  induction pieces generalizing stream with
  | nil => rfl
  | cons piece pieces ih =>
    rw [writeAll, writeAll, write_incoming]
    rcases stream.write piece with ⟨error | _, stream'⟩
    · rfl
    · exact ih stream'

theorem flush_incoming (stream : ByteStream) (incoming : Bytes) :
    flush { stream with incoming } = (stream.flush.1, { stream.flush.2 with incoming }) := by
  unfold flush
  dsimp only
  split <;> rfl

/-- Writing has nothing to do with what is still to come in. -/
theorem transmit_incoming (pieces : List Bytes) (stream : ByteStream) (incoming : Bytes) :
    transmit pieces { stream with incoming } =
      ((stream.transmit pieces).1, { (stream.transmit pieces).2 with incoming }) := by
  rw [transmit, transmit, writeAll_incoming]
  rcases stream.writeAll pieces with ⟨error | _, stream'⟩
  · rfl
  · exact flush_incoming stream' incoming

def Refused (start stream : ByteStream) (error : IoError) : Prop :=
  ∃ call, start.writes ≤ call ∧ call < stream.writes ∧ start.refuses call = some error

theorem prefix_of_torn (piece : Bytes) (stream : ByteStream) :
    (stream.torn piece).flatten <+: piece := by
  have hfront : piece.dropLast.take (stream.partly stream.writes) <+: piece :=
    (List.take_prefix ..).trans (List.dropLast_prefix piece)
  unfold torn
  generalize piece.dropLast.take (stream.partly stream.writes) = front at hfront ⊢
  cases front with
  | nil => exact List.nil_prefix
  | cons byte front => simpa using hfront

/-- What went out is the front of what was to be written: all of it, unless a write was refused. -/
theorem writeAll_cases (pieces : List Bytes) (stream : ByteStream) :
    stream.writes ≤ (stream.writeAll pieces).2.writes ∧
      ∃ bytes, bytes <+: pieces.flatten ∧
        (stream.writeAll pieces).2.written = stream.written ++ bytes ∧
        ((stream.writeAll pieces).1 = .ok () ∧ bytes = pieces.flatten ∨
          ∃ error, (stream.writeAll pieces).1 = .error error ∧
            stream.Refused (stream.writeAll pieces).2 error) := by
  induction pieces generalizing stream with
  | nil =>
    exact ⟨Nat.le_refl _, [], List.prefix_rfl, (List.append_nil _).symm, .inl ⟨rfl, rfl⟩⟩
  | cons piece pieces ih =>
    cases hfate : stream.refuses stream.writes with
    | some error =>
      have hwrite : stream.write piece = (.error error, { stream with
          writes := stream.writes + 1, sent := stream.sent ++ stream.torn piece }) := by
        simp [write, hfate]
      have hprefix : (stream.torn piece).flatten <+: (piece :: pieces).flatten :=
        (prefix_of_torn piece stream).trans (List.prefix_append ..)
      rw [writeAll, hwrite]
      exact ⟨Nat.le_succ _, _, hprefix, List.flatten_append,
        .inr ⟨error, rfl, stream.writes, Nat.le_refl _, Nat.lt_succ_self _, hfate⟩⟩
    | none =>
      have hwrite : stream.write piece = (.ok (), { stream with
          writes := stream.writes + 1, sent := stream.sent ++ [piece] }) := by
        simp [write, hfate]
      obtain ⟨hwrites, bytes, hprefix, hwritten, hends⟩ := ih { stream with
        writes := stream.writes + 1, sent := stream.sent ++ [piece] }
      rw [writeAll, hwrite]
      refine ⟨Nat.le_of_succ_le hwrites, piece ++ bytes, ?_, ?_, ?_⟩
      · exact (List.prefix_append_right_inj piece).mpr hprefix
      · rw [hwritten]
        simp [written]
      · rcases hends with ⟨hok, rfl⟩ | ⟨error, herror, call, hle, hlt, hfate'⟩
        · exact .inl ⟨hok, rfl⟩
        · exact .inr ⟨error, herror, call, Nat.le_of_succ_le hle, hlt, hfate'⟩

/-- A flush that is refused comes too late to hold anything back. -/
theorem transmit_cases (pieces : List Bytes) (stream : ByteStream) :
    stream.writes ≤ (stream.transmit pieces).2.writes ∧
      ∃ bytes, bytes <+: pieces.flatten ∧
        (stream.transmit pieces).2.written = stream.written ++ bytes ∧
        ((stream.transmit pieces).1 = .ok () ∧ bytes = pieces.flatten ∨
          ∃ error, (stream.transmit pieces).1 = .error error ∧
            (bytes = pieces.flatten ∨ stream.Refused (stream.transmit pieces).2 error)) := by
  obtain ⟨hwrites, bytes, hprefix, hwritten, hends⟩ := writeAll_cases pieces stream
  unfold transmit
  generalize stream.writeAll pieces = done at *
  obtain ⟨result, stream'⟩ := done
  rcases hends with ⟨hok, hall⟩ | ⟨error, herror, hrefused⟩
  · dsimp only at hok
    subst hok
    obtain ⟨flushes, hflush⟩ := exists_flush stream'
    dsimp only
    rw [hflush]
    refine ⟨hwrites, bytes, hprefix, hwritten, ?_⟩
    cases hresult : stream'.flush.1 with
    | ok => exact .inl ⟨rfl, hall⟩
    | error error => exact .inr ⟨error, rfl, .inl hall⟩
  · dsimp only at herror
    subst herror
    exact ⟨hwrites, bytes, hprefix, hwritten, .inr ⟨error, rfl, .inr hrefused⟩⟩

end ByteStream

namespace Packet

def calls (payload : Bytes) : List Bytes :=
  if payload.length < maxPayload then [headerFor payload 0 ++ payload] else pieces payload

theorem flatten_calls (payload : Bytes) : (calls payload).flatten = frame UInt8.ofNat payload := by
  unfold calls
  split
  · next hone => rw [frame_of_lt hone, List.flatten_singleton]; rfl
  · exact flatten_pieces payload

/-- The room in front of the payload gets the header of a single part. -/
theorem write_eq {room : Bytes} (hroom : room.length = reserve) (payload : Bytes)
    (stream : ByteStream) :
    write (room ++ payload) stream = {
      outcome := (stream.transmit (calls payload)).1.mapError Error.io
      packet := (if payload.length < maxPayload then headerFor payload 0 else room) ++ payload
      stream := (stream.transmit (calls payload)).2 } := by
  have hlong : ¬ (room ++ payload).length < reserve := by
    rw [List.length_append, hroom]
    omega
  have hpayload : (room ++ payload).drop reserve = payload := by rw [← hroom, List.drop_left]
  unfold write calls
  rw [if_neg hlong, hpayload]
  by_cases hone : payload.length < maxPayload
  · simp only [hone, if_true]
  · simp only [hone, if_false]

/-- What stood in the room for the header does not matter. -/
theorem write_append {room : Bytes} (hroom : room.length = reserve) (payload : Bytes)
    (stream : ByteStream) :
    (write (room ++ payload) stream).outcome =
        (stream.transmit (calls payload)).1.mapError Error.io ∧
      (write (room ++ payload) stream).stream = (stream.transmit (calls payload)).2 := by
  rw [write_eq hroom]
  exact ⟨rfl, rfl⟩

theorem write_cases {room : Bytes} (hroom : room.length = reserve) (payload : Bytes)
    (stream : ByteStream) {written : Written} (h : write (room ++ payload) stream = written) :
    written.stream.refuses = stream.refuses ∧ stream.writes ≤ written.stream.writes ∧
      ∃ bytes, bytes <+: frame UInt8.ofNat payload ∧
        written.stream.written = stream.written ++ bytes ∧
        (written.outcome = .ok () ∧ bytes = frame UInt8.ofNat payload ∨
          ∃ cause, written.outcome = .error (.io cause) ∧
            (bytes = frame UInt8.ofNat payload ∨ stream.Refused written.stream cause)) := by
  obtain ⟨houtcome, hstream⟩ := write_append hroom payload stream
  obtain ⟨sent, writes, flushes, hrest⟩ := ByteStream.exists_transmit (calls payload) stream
  obtain ⟨hwrites, bytes, hprefix, hwritten, hends⟩ :=
    ByteStream.transmit_cases (calls payload) stream
  rw [flatten_calls] at hprefix hends
  rw [h] at houtcome hstream
  rw [← hstream] at hrest hwrites hwritten hends
  refine ⟨by rw [hrest], hwrites, bytes, hprefix, hwritten, ?_⟩
  rcases hends with ⟨hok, hall⟩ | ⟨cause, herror, hends⟩
  · rw [hok] at houtcome
    exact .inl ⟨houtcome, hall⟩
  · rw [herror] at houtcome
    exact .inr ⟨cause, houtcome, hends⟩

end Packet

end SqlClient
