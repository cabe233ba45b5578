import SqlClient.Proofs.Cursor.Values

namespace SqlClient.Cursor

inductive Operation : Type 1
  | nextRow
  | nullBytes
  | bytes
  | nullValue (α : Type) [FromText α]
  | value (α : Type) [FromText α]
  | decoded (name : String)
  | columns
  | isExhausted
  | lastError

def Operation.Answer : Operation → Type
  | nextRow => Bool
  | nullBytes => Bytes × Bool
  | bytes => Bytes
  | nullValue α => α × Bool
  | value α => α
  | decoded _ => Option (Bytes × Bool)
  | columns => List Column
  | isExhausted => Bool
  | lastError => Option Error

def Operation.isRead : Operation → Bool
  | nullBytes | bytes | nullValue _ | value _ => true
  | nextRow | decoded _ | columns | isExhausted | lastError => false

variable {σ : Type} [RowStream σ]

def perform (cursor : Cursor σ) : (operation : Operation) → operation.Answer × Cursor σ
  | .nextRow => cursor.nextRow
  | .nullBytes => cursor.nullBytes
  | .bytes => cursor.bytes
  | @Operation.nullValue α _ => cursor.nullValue α
  | @Operation.value α _ => cursor.value α
  | .decoded name => (cursor.decoded name, cursor)
  | .columns => (cursor.columns, cursor)
  | .isExhausted => (cursor.exhausted, cursor)
  | .lastError => (cursor.lastError, cursor)

theorem perform_cases (cursor : Cursor σ) (operation : Operation) :
    (cursor.perform operation).2 = cursor.nextRow.2 ∨
      cursor.Reads (cursor.perform operation).2 ∨ (cursor.perform operation).2 = cursor := by
  cases operation with
  | nextRow => exact .inl rfl
  | nullBytes => exact .inr (.inl (.nullBytes cursor))
  | bytes => exact .inr (.inl (.bytes cursor))
  | nullValue α => exact .inr (.inl (.nullValue α cursor))
  | value α => exact .inr (.inl (.value α cursor))
  | decoded | columns | isExhausted | lastError => exact .inr (.inr rfl)

theorem reads_perform (cursor : Cursor σ) {operation : Operation} (h : operation.isRead) :
    cursor.Reads (cursor.perform operation).2 := by
  cases operation with
  | nullBytes => exact .nullBytes cursor
  | bytes => exact .bytes cursor
  | nullValue α => exact .nullValue α cursor
  | value α => exact .value α cursor
  | nextRow | decoded | columns | isExhausted | lastError => cases h

def answers : List Operation → Cursor σ → List ((operation : Operation) × operation.Answer)
  | [], _ => []
  | operation :: operations, cursor =>
    ⟨operation, (cursor.perform operation).1⟩ :: answers operations (cursor.perform operation).2

def after (cursor : Cursor σ) (operations : List Operation) : Cursor σ :=
  operations.foldl (fun cursor operation ↦ (cursor.perform operation).2) cursor

/-- What successful calls for a row and accessors preserve holds as long as no call for a row fails. -/
theorem after_of_advancing (P : Cursor σ → Prop)
    (hnext : ∀ cursor next, P cursor → cursor.nextRow = (true, next) → P next)
    (hread : ∀ cursor cursor', P cursor → cursor.Reads cursor' → P cursor') {cursor : Cursor σ}
    (h : P cursor) {operations : List Operation}
    (hanswers : ⟨.nextRow, false⟩ ∉ cursor.answers operations) : P (cursor.after operations) := by
  induction operations generalizing cursor with
  | nil => exact h
  | cons operation operations ih =>
    simp only [answers, List.mem_cons, not_or] at hanswers
    obtain ⟨hanswer, hanswers⟩ := hanswers
    refine ih ?_ hanswers
    cases operation with
    | nextRow =>
      rcases hresult : cursor.nextRow with ⟨advanced, next⟩
      change P cursor.nextRow.2
      rw [hresult]
      cases advanced with
      | true => exact hnext cursor next h hresult
      | false =>
        have hfalse : (cursor.perform .nextRow).1 = false := congrArg Prod.fst hresult
        exact absurd (by rw [hfalse]) hanswer
    | nullBytes => exact hread cursor _ h (.nullBytes cursor)
    | bytes => exact hread cursor _ h (.bytes cursor)
    | nullValue α => exact hread cursor _ h (.nullValue α cursor)
    | value α => exact hread cursor _ h (.value α cursor)
    | decoded | columns | isExhausted | lastError => exact h

end SqlClient.Cursor
