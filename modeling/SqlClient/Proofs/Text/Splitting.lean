import Mathlib.Data.List.TakeDrop
import Mathlib.Data.List.TakeWhile

namespace SqlClient.Splitting

variable {α β : Type} {p : α → Bool} {front : List α}

theorem span_of_forall (h : ∀ a ∈ front, p a = true) : front.span p = (front, []) := by
  rw [List.span_eq_takeWhile_dropWhile, List.takeWhile_eq_self_iff.mpr h,
    List.dropWhile_eq_nil_iff.mpr h]

/-- What stands behind a separator plays no part in where the list is cut. -/
theorem span_append_cons {text behind : List α} (h : text.span p = (front, behind)) (rest : List α)
    {separator : α} (hseparator : p separator = false) :
    (text ++ separator :: rest).span p = (front, behind ++ separator :: rest) := by
  rw [List.span_eq_takeWhile_dropWhile] at h ⊢
  cases h
  induction text with
  | nil => simp [hseparator]
  | cons a text ih =>
    obtain ⟨htake, hdrop⟩ := Prod.mk.inj ih
    cases ha : p a with
    | false => simp [ha]
    | true =>
      simp only [List.cons_append, List.takeWhile_cons, List.dropWhile_cons, ha, if_true, htake,
        hdrop]

theorem span_cons_of_forall (h : ∀ a ∈ front, p a = true) (rest : List α) {separator : α}
    (hseparator : p separator = false) :
    (front ++ separator :: rest).span p = (front, separator :: rest) :=
  span_append_cons (span_of_forall h) rest hseparator

theorem append_of_span {text behind : List α} (h : text.span p = (front, behind)) :
    front ++ behind = text := by
  rw [List.span_eq_takeWhile_dropWhile] at h
  cases h
  exact List.takeWhile_append_dropWhile

theorem forall_mem_of_span {text behind : List α} (h : text.span p = (front, behind)) :
    ∀ a ∈ front, p a = true := by
  rw [List.span_eq_takeWhile_dropWhile] at h
  cases h
  intro a
  exact List.mem_takeWhile_imp

variable {separator : List α} {parts : List (List α)}

theorem mem_intercalate {a : α} (h : a ∈ separator.intercalate parts) :
    a ∈ separator ∨ ∃ part ∈ parts, a ∈ part := by
  induction parts with
  | nil => cases h
  | cons part parts ih =>
    by_cases hnil : parts = []
    · rw [hnil, List.intercalate_singleton] at h
      exact .inr ⟨part, List.mem_cons_self .., h⟩
    rw [List.intercalate_cons_of_ne_nil hnil, List.mem_append, List.mem_append] at h
    obtain (h | h) | h := h
    · exact .inr ⟨part, List.mem_cons_self .., h⟩
    · exact .inl h
    · refine (ih h).imp_right ?_
      rintro ⟨part', hmem, ha⟩
      exact ⟨part', List.mem_cons_of_mem _ hmem, ha⟩

theorem flatMap_intercalate (f : α → List β) (separator : List α) (parts : List (List α)) :
    (separator.intercalate parts).flatMap f =
      (separator.flatMap f).intercalate (parts.map (·.flatMap f)) := by
  induction parts with
  | nil => rfl
  | cons part parts ih =>
    by_cases hnil : parts = []
    · simp [hnil]
    have hmap : parts.map (·.flatMap f) ≠ [] := by simpa using hnil
    rw [List.intercalate_cons_of_ne_nil hnil, List.map_cons, List.intercalate_cons_of_ne_nil hmap,
      List.flatMap_append, List.flatMap_append, ih]

end SqlClient.Splitting
