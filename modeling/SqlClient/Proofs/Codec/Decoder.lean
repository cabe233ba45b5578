import SqlClient.Decoder

namespace SqlClient.Decoder

variable {α β : Type} {input rest : Bytes}

theorem bind_apply (x : Decoder α) (f : α → Decoder β) (input : Bytes) :
    (x >>= f) input = match x input with
      | .ok (a, rest) => f a rest
      | .error error => .error error := by
  change StateT.bind x f input = _
  simp only [StateT.bind, bind, Except.bind]
  cases x input <;> rfl

theorem pure_apply (a : α) (input : Bytes) : (pure a : Decoder α) input = .ok (a, input) := rfl

theorem get_apply (input : Bytes) : (get : Decoder Bytes) input = .ok (input, input) := rfl

theorem throw_apply (error : Error) (input : Bytes) :
    (throw error : Decoder α) input = .error error := rfl

theorem bind_of_ok {x : Decoder α} {f : α → Decoder β} {a : α} (h : x input = .ok (a, rest)) :
    (x >>= f) input = f a rest := by
  rw [bind_apply, h]

theorem bind_eq_ok {x : Decoder α} {f : α → Decoder β} {b : β} :
    (x >>= f) input = .ok (b, rest) ↔
      ∃ a input', x input = .ok (a, input') ∧ f a input' = .ok (b, rest) := by
  rw [bind_apply]
  cases h : x input with
  | error => simp
  | ok taken =>
    obtain ⟨a, input'⟩ := taken
    constructor
    · intro hf
      exact ⟨a, input', rfl, hf⟩
    · rintro ⟨a', input'', heq, hf⟩
      cases heq
      exact hf

theorem decode_eq_ok {decoder : Decoder α} {a : α} :
    decoder.decode input = .ok a ↔ ∃ rest, decoder input = .ok (a, rest) := by
  unfold decode
  cases decoder input with
  | error => simp [Except.map]
  | ok taken => simp [Except.map, Prod.ext_iff]

theorem decode_of_ok {decoder : Decoder α} {a : α} (h : decoder input = .ok (a, rest)) :
    decoder.decode input = .ok a :=
  decode_eq_ok.mpr ⟨rest, h⟩

theorem take_eq_ok {count : Nat} {front : Bytes} :
    take count input = .ok (front, rest) ↔ input = front ++ rest ∧ front.length = count := by
  rw [← takeExactly?_eq_some_iff, take]
  cases takeExactly? count input <;> simp

theorem take_eq_error {count : Nat} {error : Error} :
    take count input = .error error ↔ input.length < count ∧ error = .unexpectedEof := by
  rw [← takeExactly?_eq_none_iff, take]
  cases takeExactly? count input <;> simp [eq_comm]

/-- Input that breaks off within the bytes is too short for the decoder. -/
def Needs (decoder : Decoder α) (bytes : Bytes) : Prop :=
  ∀ ⦃cut : Bytes⦄, cut <+: bytes → cut ≠ bytes → decoder cut = .error .unexpectedEof

/-- The decoder reads `a` off the bytes, whatever follows them, and needs all of them. -/
structure ReadsExactly (decoder : Decoder α) (bytes : Bytes) (a : α) : Prop where
  ok (rest : Bytes) : decoder (bytes ++ rest) = .ok (a, rest)
  needs : decoder.Needs bytes

def Exact (decoder : Decoder α) : Prop :=
  ∀ ⦃input : Bytes⦄ ⦃a : α⦄ ⦃rest : Bytes⦄, decoder input = .ok (a, rest) →
    ∃ bytes, input = bytes ++ rest ∧ decoder.ReadsExactly bytes a

theorem needs_nil (decoder : Decoder α) : decoder.Needs [] := by
  intro cut hcut hne
  exact absurd (List.prefix_nil.mp hcut) hne

theorem ReadsExactly.needs_bind {x : Decoder α} {f : α → Decoder β} {bytes bytes' : Bytes} {a : α}
    (hx : x.ReadsExactly bytes a) (hf : (f a).Needs bytes') : (x >>= f).Needs (bytes ++ bytes') := by
  intro cut hcut hne
  by_cases hfirst : bytes <+: cut
  · obtain ⟨cut', rfl⟩ := hfirst
    rw [bind_of_ok (hx.ok cut')]
    apply hf ((List.prefix_append_right_inj bytes).mp hcut)
    rintro rfl
    exact hne rfl
  · have hshort : cut <+: bytes :=
      (List.prefix_or_prefix_of_prefix hcut (List.prefix_append bytes bytes')).resolve_right hfirst
    have hcut_ne : cut ≠ bytes := by
      rintro rfl
      exact hfirst List.prefix_rfl
    rw [bind_apply, hx.needs hshort hcut_ne]

theorem ReadsExactly.bind {x : Decoder α} {f : α → Decoder β} {bytes bytes' : Bytes} {a : α} {b : β}
    (hx : x.ReadsExactly bytes a) (hf : (f a).ReadsExactly bytes' b) :
    (x >>= f).ReadsExactly (bytes ++ bytes') b where
  ok rest := by rw [List.append_assoc, bind_of_ok (hx.ok _), hf.ok]
  needs := hx.needs_bind hf.needs

theorem readsExactly_pure (a : α) : (pure a : Decoder α).ReadsExactly [] a :=
  ⟨fun _ ↦ rfl, needs_nil _⟩

theorem ReadsExactly.bind_pure {x : Decoder α} {bytes : Bytes} {a : α} (hx : x.ReadsExactly bytes a)
    (f : α → β) : (x >>= fun a ↦ pure (f a)).ReadsExactly bytes (f a) := by
  rw [← List.append_nil bytes]
  exact hx.bind (readsExactly_pure (f a))

/-- What is written piece by piece is read piece by piece. -/
theorem readsExactly_mapM {ι : Type} {read : ι → Decoder α} {write : ι → Bytes} {value : ι → α}
    {items : List ι} (h : ∀ item ∈ items, (read item).ReadsExactly (write item) (value item)) :
    (items.mapM read).ReadsExactly (items.flatMap write) (items.map value) := by
  induction items with
  | nil => exact readsExactly_pure []
  | cons item items ih =>
    obtain ⟨hitem, hitems⟩ := List.forall_mem_cons.mp h
    rw [List.mapM_cons, List.flatMap_cons, List.map_cons]
    exact hitem.bind ((ih hitems).bind_pure _)

theorem Exact.readsExactly {decoder : Decoder α} (h : Exact decoder) {bytes : Bytes} {a : α}
    (hread : decoder (bytes ++ rest) = .ok (a, rest)) : decoder.ReadsExactly bytes a := by
  obtain ⟨bytes', hbytes, hreads⟩ := h hread
  rwa [List.append_cancel_right hbytes]

theorem Exact.suffix {decoder : Decoder α} (h : Exact decoder) {a : α}
    (hread : decoder input = .ok (a, rest)) : rest <:+ input := by
  obtain ⟨bytes, rfl, -⟩ := h hread
  exact List.suffix_append bytes rest

theorem Exact.bind {x : Decoder α} {f : α → Decoder β} (hx : Exact x) (hf : ∀ a, Exact (f a)) :
    Exact (x >>= f) := by
  intro input b rest h
  obtain ⟨a, input', hread, hrest⟩ := bind_eq_ok.mp h
  obtain ⟨bytes, rfl, hbytes⟩ := hx hread
  obtain ⟨bytes', rfl, hbytes'⟩ := hf a hrest
  exact ⟨bytes ++ bytes', (List.append_assoc ..).symm, hbytes.bind hbytes'⟩

theorem exact_pure (a : α) : Exact (pure a : Decoder α) := by
  intro input b rest h
  cases h
  exact ⟨[], rfl, readsExactly_pure a⟩

theorem exact_throw (error : Error) : Exact (throw error : Decoder α) := by
  intro input a rest h
  cases h

theorem exact_byte : Exact byte := by
  intro input b rest h
  cases input with
  | nil => cases h
  | cons first input =>
    cases h
    refine ⟨[b], rfl, fun rest ↦ rfl, ?_⟩
    intro cut hcut hne
    cases cut with
    | nil => rfl
    | cons first cut =>
      obtain ⟨rfl, htail⟩ := List.cons_prefix_cons.mp hcut
      exact absurd (congrArg (first :: ·) (List.prefix_nil.mp htail)) hne

theorem exact_take (count : Nat) : Exact (take count) := by
  intro input front rest h
  obtain ⟨rfl, rfl⟩ := take_eq_ok.mp h
  refine ⟨front, rfl, fun rest ↦ take_eq_ok.mpr ⟨rfl, rfl⟩, ?_⟩
  intro cut hcut hne
  have hshort : cut.length < front.length := by
    have hle := hcut.length_le
    have hlength : cut.length ≠ front.length := fun h ↦ hne (hcut.eq_of_length h)
    omega
  exact take_eq_error.mpr ⟨hshort, rfl⟩

theorem exact_fixed (width : Nat) : Exact (fixed width) :=
  (exact_take width).bind fun _ ↦ exact_pure _

theorem exact_uint16 : Exact uint16 :=
  (exact_fixed 2).bind fun _ ↦ exact_pure _

theorem exact_uint24 : Exact uint24 :=
  (exact_fixed 3).bind fun _ ↦ exact_pure _

theorem exact_uint32 : Exact uint32 :=
  (exact_fixed 4).bind fun _ ↦ exact_pure _

theorem exact_uint64 : Exact uint64 :=
  (exact_fixed 8).bind fun _ ↦ exact_pure _

theorem exact_lenencInt : Exact lenencInt := by
  apply exact_byte.bind
  intro first
  split
  · exact (exact_fixed 2).bind fun _ ↦ exact_pure _
  split
  · exact (exact_fixed 3).bind fun _ ↦ exact_pure _
  split
  · exact (exact_fixed 8).bind fun _ ↦ exact_pure _
  split
  · exact exact_throw _
  · exact exact_pure _

theorem exact_lenencString : Exact lenencString :=
  exact_lenencInt.bind fun _ ↦ exact_take _

def Plain (decoder : Decoder α) : Prop :=
  ∀ ⦃input : Bytes⦄ ⦃error : Error⦄, decoder input = .error error →
    error = .unexpectedEof ∨ error = .invalidPacket

theorem Plain.bind {x : Decoder α} {f : α → Decoder β} (hx : Plain x) (hf : ∀ a, Plain (f a)) :
    Plain (x >>= f) := by
  intro input error h
  rw [bind_apply] at h
  split at h
  · exact hf _ h
  · next hfail =>
    cases h
    exact hx hfail

theorem plain_pure (a : α) : Plain (pure a : Decoder α) := by
  intro input error h
  cases h

theorem plain_get : Plain (get : Decoder Bytes) := by
  intro input error h
  cases h

theorem plain_invalidPacket : Plain (throw .invalidPacket : Decoder α) := by
  intro input error h
  cases h
  exact .inr rfl

theorem Plain.check {p : Prop} [Decidable p] {f : PUnit → Decoder α} (h : Plain (f ⟨⟩)) :
    Plain (if p then throw .invalidPacket >>= f else f ⟨⟩) := by
  split
  · exact plain_invalidPacket.bind fun _ ↦ h
  · exact h

theorem plain_byte : Plain byte := by
  intro input error h
  cases input <;> cases h
  exact .inl rfl

theorem plain_take (count : Nat) : Plain (take count) := by
  intro input error h
  exact .inl (take_eq_error.mp h).2

theorem plain_fixed (width : Nat) : Plain (fixed width) :=
  (plain_take width).bind fun _ ↦ plain_pure _

theorem plain_uint16 : Plain uint16 :=
  (plain_fixed 2).bind fun _ ↦ plain_pure _

theorem plain_uint32 : Plain uint32 :=
  (plain_fixed 4).bind fun _ ↦ plain_pure _

theorem plain_lenencInt : Plain lenencInt := by
  refine plain_byte.bind fun first ↦ ?_
  split
  · exact (plain_fixed 2).bind fun _ ↦ plain_pure _
  split
  · exact (plain_fixed 3).bind fun _ ↦ plain_pure _
  split
  · exact (plain_fixed 8).bind fun _ ↦ plain_pure _
  split
  · exact plain_invalidPacket
  · exact plain_pure _

theorem plain_lenencString : Plain lenencString :=
  plain_lenencInt.bind fun _ ↦ plain_take _

theorem plain_remaining : Plain remaining := by
  intro input error h
  cases h

theorem Plain.error_cases {decoder : Decoder α} (h : Plain decoder) {error : Error}
    (hdecode : decoder.decode input = .error error) :
    error = .unexpectedEof ∨ error = .invalidPacket := by
  unfold Decoder.decode at hdecode
  cases hinput : decoder input with
  | error =>
    rw [hinput] at hdecode
    cases hdecode
    exact h hinput
  | ok taken =>
    rw [hinput] at hdecode
    cases hdecode

theorem Plain.breaksConnection {decoder : Decoder α} (h : Plain decoder) {error : Error}
    (hdecode : decoder.decode input = .error error) : error.breaksConnection := by
  rcases h.error_cases hdecode with rfl | rfl <;> rfl

end SqlClient.Decoder
