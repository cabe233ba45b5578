import Mathlib.Logic.Function.Iterate
import SqlClient.Proofs.Cursor.Position

namespace SqlClient

open Response

namespace RowStream

variable {σ : Type} [RowStream σ]

def poll (stream : σ) : σ :=
  (next stream).2

inductive Yields : σ → List Bytes → Option Error → Prop
  | ended {stream : σ} : (next stream).1 = .ok none → Yields stream [] none
  | failed {stream : σ} {error : Error} :
      (next stream).1 = .error error → Yields stream [] (some error)
  | row {stream : σ} {row : Bytes} {rows : List Bytes} {ending : Option Error} :
      (next stream).1 = .ok (some row) → Yields (poll stream) rows ending →
      Yields stream (row :: rows) ending

end RowStream

namespace ObservedRows

open RowStream

variable {σ : Type} [RowStream σ]

theorem next_of_unfailing (stream : σ) (polls : Nat) :
    next ({ stream, polls } : ObservedRows σ) =
      ((next stream).1, { stream := poll stream, polls := polls + 1 }) := by
  unfold poll
  rcases hnext : next stream with ⟨error | (_ | row), stream'⟩
  all_goals simp only [next, hnext]

theorem yields {stream : σ} {rows : List Bytes} {ending : Option Error}
    (h : Yields stream rows ending) (polls : Nat) :
    Yields ({ stream, polls } : ObservedRows σ) rows ending := by
  induction h generalizing polls with
  | ended hnext =>
    apply Yields.ended
    rw [next_of_unfailing, hnext]
  | failed hnext =>
    apply Yields.failed
    rw [next_of_unfailing, hnext]
  | @row stream _ _ _ hnext _ ih =>
    apply Yields.row
    · rw [next_of_unfailing, hnext]
    · rw [poll, next_of_unfailing]
      exact ih (polls + 1)

theorem polls_poll (observed : ObservedRows σ) : (poll observed).polls = observed.polls + 1 := by
  rcases hnext : next observed.stream with ⟨error | (_ | row), stream⟩ <;>
    cases hfailure : observed.failure <;>
      simp only [poll, next, hnext, hfailure]

theorem polls_iterate (count : Nat) (observed : ObservedRows σ) :
    (poll^[count] observed).polls = observed.polls + count := by
  induction count with
  | zero => rfl
  | succ count ih =>
    rw [Function.iterate_succ_apply', polls_poll, ih]
    omega

end ObservedRows

namespace Cursor

open RowStream

variable {σ : Type} [RowStream σ] {stream : σ} {rows : List Bytes} {ending : Option Error}
  {calls : Nat} {cursor cursor' : Cursor σ}

/-- Where so many calls for a row lead: to a row, or for good to what is behind the last one. -/
inductive Reached (stream : σ) (rows : List Bytes) (ending : Option Error) (calls : Nat)
    (cursor : Cursor σ) : Prop
  | within : calls ≤ rows.length → ¬ cursor.Over → cursor.stream = poll^[calls] stream →
      Yields cursor.stream (rows.drop calls) ending → Reached stream rows ending calls cursor
  | behind : rows.length < calls → cursor.stream = poll^[rows.length + 1] stream →
      cursor.exhausted = ending.isNone → cursor.readError = ending →
      Reached stream rows ending calls cursor

theorem Reached.ofStream (h : Yields stream rows ending) :
    Reached stream rows ending 0 (.ofStream stream) :=
  .within (Nat.zero_le _) (not_over_ofStream stream) rfl h

theorem Reached.nextRow (h : Reached stream rows ending calls cursor) :
    (cursor.nextRow.1 = true ↔ calls < rows.length) ∧
      Reached stream rows ending (calls + 1) cursor.nextRow.2 := by
  cases h with
  | within hcalls hover hstream hyields =>
    obtain ⟨hreading, hunbroken⟩ := not_over_iff.mp hover
    have hpoll : poll cursor.stream = poll^[calls + 1] stream := by
      rw [Function.iterate_succ_apply', hstream]
    generalize hrest : rows.drop calls = rest at hyields
    -- The call leaves the rows exactly if there are none left.
    cases hyields with
    | ended hnext =>
      have hlast : calls = rows.length := by
        have := List.drop_eq_nil_iff.mp hrest
        omega
      rw [nextRow_of_none hreading hunbroken (Prod.ext hnext rfl)]
      refine ⟨by simp [hlast], .behind (by omega) ?_ rfl hunbroken⟩
      rw [← hlast]
      exact hpoll
    | failed hnext =>
      have hlast : calls = rows.length := by
        have := List.drop_eq_nil_iff.mp hrest
        omega
      rw [nextRow_of_error hreading hunbroken (Prod.ext hnext rfl)]
      refine ⟨by simp [hlast], .behind (by omega) ?_ hreading rfl⟩
      rw [← hlast]
      exact hpoll
    | @row _ row rows' _ hnext hyields =>
      have hlt : calls < rows.length := by
        by_contra hnot
        rw [List.drop_eq_nil_of_le (by omega)] at hrest
        cases hrest
      have hbehind : rows.drop (calls + 1) = rows' := by
        rw [← List.tail_drop, hrest, List.tail_cons]
      rw [nextRow_of_some hreading hunbroken (Prod.ext hnext rfl)]
      refine ⟨by simp [hlt], .within hlt hover hpoll ?_⟩
      rw [hbehind]
      exact hyields
  | behind hcalls hstream hexhausted herror =>
    have hover : cursor.Over := by
      rw [Over, hexhausted, herror]
      cases ending <;> simp
    rw [nextRow_of_over hover]
    refine ⟨?_, .behind (by omega) hstream hexhausted herror⟩
    constructor
    · intro htrue
      cases htrue
    · intro hlt
      omega

theorem Reached.read (h : Reached stream rows ending calls cursor) (hread : cursor.Reads cursor') :
    Reached stream rows ending calls cursor' := by
  cases h with
  | within hcalls hunder hstream hyields =>
    refine .within hcalls (fun h ↦ hunder (hread.over_iff.mp h)) ?_ ?_
    · rw [hread.stream_eq, hstream]
    · rw [hread.stream_eq]
      exact hyields
  | behind hcalls hstream hexhausted herror =>
    refine .behind hcalls ?_ ?_ ?_
    · rw [hread.stream_eq, hstream]
    · rw [hread.exhausted_eq, hexhausted]
    · rw [hread.readError_eq, herror]

theorem Reached.after {position : Position} (h : Reached stream rows ending position.row cursor)
    (operations : List Operation) :
    Reached stream rows ending (operations.foldl Position.advance position).row
      (cursor.after operations) := by
  refine after_induction (motive := fun position ↦ Reached stream rows ending position.row)
    ?_ ?_ position h operations
  · intro position cursor h
    exact h.nextRow.2
  · intro position cursor cursor' h hread
    exact h.read hread

theorem Reached.stream_eq (h : Reached stream rows ending calls cursor) :
    cursor.stream = poll^[min calls (rows.length + 1)] stream := by
  cases h with
  | within hcalls _ hstream _ =>
    rw [hstream, Nat.min_eq_left (by omega)]
  | behind hcalls hstream _ _ =>
    rw [hstream, Nat.min_eq_right (by omega)]

theorem Reached.ending_eq (h : Reached stream rows ending calls cursor) :
    (cursor.exhausted = true ↔ rows.length < calls ∧ ending = none) ∧
      cursor.readError = if rows.length < calls then ending else none := by
  cases h with
  | within hcalls hover _ _ =>
    have hnot : ¬ rows.length < calls := by omega
    obtain ⟨hreading, hunbroken⟩ := not_over_iff.mp hover
    simp [hnot, hreading, hunbroken]
  | behind hcalls _ hexhausted herror =>
    simp [hcalls, hexhausted, herror]

end Cursor

inductive HandsOut {τ : Type} [Transport τ] : τ → List Bytes → Except Error Bytes → Prop
  | last {t : τ} {last : Except Error Bytes} : (Transport.readPacket t).1 = last →
      (∀ packet, last = .ok packet → isRow packet = false) → HandsOut t [] last
  | row {t : τ} {row : Bytes} {rows : List Bytes} {last : Except Error Bytes} :
      (Transport.readPacket t).1 = .ok row → isRow row →
      HandsOut (Transport.readPacket t).2 rows last → HandsOut t (row :: rows) last

namespace ResultSet

open RowStream

section Poll

variable {τ : Type} [Transport τ] {resultSet : ResultSet τ}

theorem poll_of_row (hopen : resultSet.finished = false) {row : Bytes}
    (hread : (Transport.readPacket resultSet.conn.transport).1 = .ok row) (hrow : isRow row) :
    (next resultSet).1 = .ok (some row) ∧ (poll resultSet).finished = false ∧
      (poll resultSet).conn.transport = (Transport.readPacket resultSet.conn.transport).2 := by
  have hnext := next_of_isRow hopen (Prod.ext hread rfl) hrow
  change resultSet.next.1 = _ ∧ resultSet.next.2.finished = _ ∧ resultSet.next.2.conn.transport = _
  rw [hnext]
  exact ⟨rfl, hopen, rfl⟩

theorem poll_of_last (hopen : resultSet.finished = false) {last : Except Error Bytes}
    (hread : (Transport.readPacket resultSet.conn.transport).1 = last)
    (hlast : ∀ packet, last = .ok packet → isRow packet = false) :
    (∃ ending, Yields resultSet [] ending) ∧
      (poll resultSet).conn.transport = (Transport.readPacket resultSet.conn.transport).2 := by
  obtain ⟨packet, hnext, hresult⟩ | ⟨status, hnext, -⟩ | ⟨error, hnext, -⟩ :=
    next_cases hopen (Prod.ext hread rfl)
  · obtain ⟨_, -, hrow, -⟩ := next_eq_some hnext
    rw [hlast packet hresult] at hrow
    cases hrow
  · refine ⟨⟨none, .ended (congrArg Prod.fst hnext)⟩, ?_⟩
    exact congrArg (·.2.conn.transport) hnext
  · refine ⟨⟨some error, .failed (congrArg Prod.fst hnext)⟩, ?_⟩
    exact (congrArg (·.2.conn.transport) hnext).trans (transport_fail error)

theorem exists_yields (hopen : resultSet.finished = false) {rows : List Bytes}
    {last : Except Error Bytes} (h : HandsOut resultSet.conn.transport rows last) :
    ∃ ending, Yields resultSet rows ending := by
  generalize htransport : resultSet.conn.transport = t at h
  induction h generalizing resultSet with
  | last hread hlast =>
    subst htransport
    exact (poll_of_last hopen hread hlast).1
  | row hread hrow _ ih =>
    subst htransport
    obtain ⟨hnext, hstill, htransport⟩ := poll_of_row hopen hread hrow
    obtain ⟨ending, hyields⟩ := ih hstill htransport
    exact ⟨ending, .row hnext hyields⟩

end Poll

variable {τ : Type} [Transport τ] {resultSet : ResultSet (Observed τ)}

theorem calls_iterate (hopen : resultSet.finished = false) {rows : List Bytes}
    {last : Except Error Bytes} (h : HandsOut resultSet.conn.transport rows last) {count : Nat}
    (hcount : count ≤ rows.length + 1) :
    (poll^[count] resultSet).conn.transport.calls =
      resultSet.conn.transport.calls ++ (Call.reads rows last).take count := by
  generalize htransport : resultSet.conn.transport = t at h
  induction h generalizing resultSet count with
  | @last t last hread hlast =>
    subst htransport
    have hcalls : (poll resultSet).conn.transport.calls =
        resultSet.conn.transport.calls ++ [.read last] := by
      rw [(poll_of_last hopen hread hlast).2]
      exact Observed.calls_of_readPacket (Prod.ext hread rfl)
    match count, hcount with
    | 0, _ => simp
    | 1, _ => exact hcalls
  | @row t row rows last hread hrow _ ih =>
    subst htransport
    obtain ⟨-, hstill, htransport⟩ := poll_of_row hopen hread hrow
    have hcalls : (Transport.readPacket resultSet.conn.transport).2.calls =
        resultSet.conn.transport.calls ++ [.read (.ok row)] :=
      Observed.calls_of_readPacket (Prod.ext hread rfl)
    cases count with
    | zero => simp
    | succ count =>
      have hrest := ih hstill (by simpa using hcount) htransport
      rw [Function.iterate_succ_apply, hrest, hcalls, List.append_assoc]
      rfl

end ResultSet

namespace Cursor

open RowStream

theorem eq_ofStream_of_query {τ : Type} [Transport τ] {conn : Connection τ} {sql : String}
    {cursor : Cursor (ResultSet τ)} (h : conn.query sql = .cursor cursor) :
    cursor = .ofStream cursor.stream := by
  unfold Connection.query at h
  split at h <;> cases h <;> rfl

/-- Each of the first calls for a row leads to one, each later one does not, and the stream is
called until it ends or fails and never again, whatever the accessors make of the rows. Over a
connection no packet is read behind the one that is no row. -/
theorem advanced_after (operations : List Operation) :
    let calls := (Position.behind operations).row
    (∀ {σ : Type} [RowStream σ] {stream : σ} {rows : List Bytes} {ending : Option Error},
      Yields stream rows ending →
        let cursor := (ofStream stream).after operations
        let observed := (ofStream ({ stream } : ObservedRows σ)).after operations
        (cursor.nextRow.1 = true ↔ calls < rows.length) ∧
          cursor.stream = poll^[min calls (rows.length + 1)] stream ∧
          observed.stream.polls = min calls (rows.length + 1) ∧
          (cursor.exhausted = true ↔ rows.length < calls ∧ ending = none) ∧
          cursor.readError = if rows.length < calls then ending else none) ∧
      ∀ {τ : Type} [Transport τ] {conn : Connection (Observed τ)} {sql : String}
        {cursor : Cursor (ResultSet (Observed τ))} {rows : List Bytes} {last : Except Error Bytes},
        conn.query sql = .cursor cursor → cursor.stream.finished = false →
        HandsOut cursor.release.transport rows last →
          (cursor.after operations).release.transport.calls =
            cursor.release.transport.calls ++ (Call.reads rows last).take calls := by
  intro calls
  refine ⟨?_, ?_⟩
  · intro σ _ stream rows ending h cursor observed
    have hreached : Reached stream rows ending calls cursor :=
      (Reached.ofStream h : Reached stream rows ending (Position.mk 0 0).row _).after operations
    have hobserved : Reached { stream } rows ending calls observed :=
      (Reached.ofStream (ObservedRows.yields h 0) :
        Reached _ rows ending (Position.mk 0 0).row _).after operations
    obtain ⟨hexhausted, herror⟩ := hreached.ending_eq
    refine ⟨hreached.nextRow.1, hreached.stream_eq, ?_, hexhausted, herror⟩
    rw [hobserved.stream_eq, ObservedRows.polls_iterate, Nat.zero_add]
  · intro τ _ conn sql cursor rows last hquery hopen hands
    obtain ⟨ending, hyields⟩ := ResultSet.exists_yields hopen hands
    have hreached : Reached cursor.stream rows ending calls (cursor.after operations) := by
      rw [eq_ofStream_of_query hquery]
      exact (Reached.ofStream hyields :
        Reached _ rows ending (Position.mk 0 0).row _).after operations
    have hlength : (Call.reads rows last).length = rows.length + 1 := by
      simp [Call.reads]
    rw [release, hreached.stream_eq, ResultSet.calls_iterate hopen hands (Nat.min_le_right _ _),
      ← hlength, ← List.take_eq_take_min]
    rfl

def failingStream : ObservedRows BufferedRows where
  stream := { columns := [{ name := "n" }], rows := [[1, 0x78], [9]] }
  failure := some (.io .connectionReset)

def strayPacket : Connection (Observed ScriptedTransport) :=
  .ofTransport { inner := {
    capabilities := .ofFlags [Capabilities.protocol41]
    script := [.ok [0x01],
      .ok [3, 0x64, 0x65, 0x66, 0, 0, 0, 1, 0x61, 0, 12, 33, 0, 4, 0, 0, 0, 3, 0, 0, 0, 0, 0],
      .ok [0xFE, 0, 0, 2, 0], .ok [1, 0x37], .ok [0xFE, 0, 0, 2, 0], .ok [0x00]] } }

theorem advanced_past_failure :
    let operations : List Operation :=
      [.nextRow, .value Bool, .nextRow, .nullBytes, .nextRow, .nextRow]
    let cursor := (ofStream failingStream).after operations
    Yields failingStream [[1, 0x78], [9]] (some (.io .connectionReset)) ∧
      cursor.nextRow.1 = false ∧ cursor.exhausted = false ∧
      cursor.readError = some (.io .connectionReset) ∧
      ((ofStream ({ stream := failingStream } : ObservedRows _)).after operations).stream.polls =
        3 ∧
      ∃ live, strayPacket.query "SELECT 7" = .cursor live ∧
        HandsOut live.release.transport [[1, 0x37]] (.ok [0xFE, 0, 0, 2, 0]) ∧
        (live.after operations).release.transport.calls = live.release.transport.calls ++
          [.read (.ok [1, 0x37]), .read (.ok [0xFE, 0, 0, 2, 0])] := by
  intro operations cursor
  have hyields : Yields failingStream [[1, 0x78], [9]] (some (.io .connectionReset)) :=
    .row rfl (.row rfl (.failed rfl))
  obtain ⟨hstreams, hsessions⟩ := advanced_after operations
  obtain ⟨hnext, -, hpolls, hexhausted, herror⟩ := hstreams hyields
  obtain ⟨live, hquery, hopen, hands⟩ : ∃ live, strayPacket.query "SELECT 7" = .cursor live ∧
      live.stream.finished = false ∧
      HandsOut live.release.transport [[1, 0x37]] (.ok [0xFE, 0, 0, 2, 0]) := by
    refine ⟨_, rfl, rfl, .row rfl rfl (.last rfl ?_)⟩
    rintro _ ⟨⟩
    rfl
  refine ⟨hyields, ?_, ?_, herror, hpolls, live, hquery, hands, hsessions hquery hopen hands⟩
  · exact Bool.eq_false_iff.mpr fun htrue ↦ absurd (hnext.mp htrue) (by decide)
  · exact Bool.eq_false_iff.mpr fun htrue ↦ absurd (hexhausted.mp htrue).2 (by decide)

end Cursor

end SqlClient
