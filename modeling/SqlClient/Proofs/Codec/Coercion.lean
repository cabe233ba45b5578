import SqlClient.Proofs.Text.Utf8
import SqlClient.Value.FromText

namespace SqlClient

def Error.isLibraryBug : Error → Bool
  | libraryBug _ => true
  | _ => false

def Sound {α : Type} (result : Except Error α) : Prop :=
  ∀ error, result = .error error → error.isLibraryBug = false

section Sound

variable {α β : Type}

theorem sound_ok (a : α) : Sound (.ok a : Except Error α) := by
  intro error herror
  cases herror

theorem sound_error {error : Error} (h : error.isLibraryBug = false) :
    Sound (.error error : Except Error α) := by
  rintro _ ⟨⟩
  exact h

theorem Sound.bind {x : Except Error α} {f : α → Except Error β} (hx : Sound x)
    (hf : ∀ a, Sound (f a)) : Sound (x >>= f) := by
  cases x with
  | ok a => exact hf a
  | error error => exact sound_error (hx error rfl)

theorem Sound.map {x : Except Error α} (hx : Sound x) (f : α → β) : Sound (x.map f) := by
  cases x with
  | ok a => exact sound_ok (f a)
  | error error => exact sound_error (hx error rfl)

theorem sound_mapError {ε : Type} {f : ε → Error} (hf : ∀ cause, (f cause).isLibraryBug = false)
    (x : Except ε α) : Sound (x.mapError f) := by
  cases x with
  | ok a => exact sound_ok a
  | error cause => exact sound_error (hf cause)

end Sound

/-- The types into which the library coerces values, and how. -/
inductive Coercible : (α : Type) → FromText α → Prop
  | bytes : Coercible Bytes inferInstance
  | string : Coercible String inferInstance
  | int8 : Coercible Int8 inferInstance
  | int16 : Coercible Int16 inferInstance
  | int32 : Coercible Int32 inferInstance
  | int64 : Coercible Int64 inferInstance
  | float (format : FloatFormat) : Coercible (FloatValue format) inferInstance
  | bool : Coercible Bool inferInstance

namespace FromText

theorem text_encode (text : String) : FromText.text (Utf8.encode text) = .ok text := by
  rw [FromText.text, Utf8.decode?_eq_some_iff.mpr rfl]

theorem text_of_not_encode {data : Bytes} (h : ¬ ∃ text, data = Utf8.encode text) :
    text data = .error .invalidUtf8 := by
  unfold text
  split
  · next text hdecode => exact absurd ⟨text, Utf8.decode?_eq_some_iff.mp hdecode⟩ h
  · rfl

theorem sound_text (data : Bytes) : Sound (text data) := by
  unfold text
  split
  · exact sound_ok _
  · exact sound_error rfl

theorem sound_signed (bits : Nat) (data : Bytes) : Sound (signed bits data) := by
  apply (sound_text data).bind
  intro text
  exact sound_mapError (fun _ ↦ rfl) _

theorem sound_float (format : FloatFormat) (data : Bytes) : Sound (float format data) := by
  apply (sound_text data).bind
  intro text
  apply (sound_mapError (fun _ ↦ rfl) _).bind
  intro value
  split
  · exact sound_error rfl
  · exact sound_ok value

theorem sound_bool (data : Bytes) : Sound (bool data) := by
  unfold bool
  split
  · exact sound_ok true
  split
  · exact sound_ok false
  · exact sound_error rfl

end FromText

theorem Coercible.sound {α : Type} {coercion : FromText α} (h : Coercible α coercion)
    (data : Bytes) : Sound (coercion.fromText data) := by
  cases h with
  | bytes => exact sound_ok data
  | string => exact FromText.sound_text data
  | int8 | int16 | int32 | int64 => exact (FromText.sound_signed _ data).map _
  | float format => exact FromText.sound_float format data
  | bool => exact FromText.sound_bool data

end SqlClient
