import SqlClient.Proofs.Text.Splitting
import SqlClient.Proofs.Url.Percent
import SqlClient.Url.Form

namespace SqlClient.Form

def set : Percent.EncodeSet := fun c ↦
  !(c.isAlphanum || ['*', '-', '.', '_'].contains c)

def encodeChar (c : Char) : List Char :=
  if c = ' ' then ['+'] else Percent.encodeChar set c

def encodeText (text : String) : List Char :=
  text.toList.flatMap encodeChar

def encodePair (pair : String × String) : List Char :=
  encodeText pair.1 ++ '=' :: encodeText pair.2

def encode (pairs : List (String × String)) : String :=
  String.ofList (['&'].intercalate (pairs.map encodePair))

def IsPlain (c : Char) : Prop :=
  c.isAlphanum = true ∨ c ∈ ['*', '-', '.', '_', '+', '%']

theorem isPlain_of_passes {c : Char} (h : Percent.Passes set c) : IsPlain c := by
  have hset : set c = false := h.2
  rw [set, Bool.not_eq_false', Bool.or_eq_true, List.contains_iff_mem] at hset
  exact hset.imp_right (List.mem_append_left ['+', '%'])

theorem isPlain_of_isEscape {c : Char} (h : Percent.IsEscape c) : IsPlain c := by
  rcases h with rfl | ⟨n, hn, rfl⟩
  · exact .inr (by simp)
  · have hdigit : ∀ n < 16, (Percent.hexDigit n).isAlphanum = true := by decide
    exact .inl (hdigit n hn)

theorem IsPlain.ne {c d : Char} (h : IsPlain c)
    (hd : d.isAlphanum = false ∧ d ∉ ['*', '-', '.', '_', '+', '%']) : c ≠ d := by
  rintro rfl
  rcases h with h | h
  · cases hd.1.symm.trans h
  · exact hd.2 h

theorem IsPlain.lt {c : Char} (h : IsPlain c) : 0x20 < c.toNat := by
  rcases h with h | h
  · exact Nat.lt_of_lt_of_le (by decide) (Percent.toNat_of_isAlphanum h).1
  · exact Percent.forall_mem_of_all (P := fun c ↦ 0x20 < c.toNat) (by decide) c h

theorem isPlain_of_mem_encodeText {text : String} {c : Char} (h : c ∈ encodeText text) :
    IsPlain c := by
  obtain ⟨c', -, hc⟩ := List.mem_flatMap.mp h
  rw [encodeChar] at hc
  split at hc
  · exact .inr (by simp [List.mem_singleton.mp hc])
  · exact (Percent.mem_encodeChar hc).elim isPlain_of_passes isPlain_of_isEscape

theorem mem_encodePair {pair : String × String} {c : Char} (h : c ∈ encodePair pair) :
    IsPlain c ∨ c = '=' := by
  rw [encodePair, List.mem_append, List.mem_cons] at h
  obtain h | rfl | h := h
  · exact .inl (isPlain_of_mem_encodeText h)
  · exact .inr rfl
  · exact .inl (isPlain_of_mem_encodeText h)

theorem mem_encode {pairs : List (String × String)} {c : Char} (h : c ∈ (encode pairs).toList) :
    IsPlain c ∨ c = '=' ∨ c = '&' := by
  rw [encode, String.toList_ofList] at h
  obtain h | ⟨part, hpart, hc⟩ := Splitting.mem_intercalate h
  · exact .inr (.inr (List.mem_singleton.mp h))
  · obtain ⟨pair, -, rfl⟩ := List.mem_map.mp hpart
    exact (mem_encodePair hc).imp_right .inl

/-- A query that holds pairs has neither blanks nor the mark of a fragment. -/
theorem lt_and_ne_of_mem_encode {pairs : List (String × String)} {c : Char}
    (h : c ∈ (encode pairs).toList) : 0x20 < c.toNat ∧ c ≠ '#' := by
  obtain h | rfl | rfl := mem_encode h
  · exact ⟨h.lt, h.ne (by decide)⟩
  · decide
  · decide

def spaced (bytes : Bytes) : Bytes :=
  bytes.map fun b ↦ if b = 0x2B then 0x20 else b

theorem spaced_of_not_mem {chars : List Char} (h : '+' ∉ chars) :
    spaced (chars.flatMap Utf8.encodeChar) = chars.flatMap Utf8.encodeChar := by
  refine (List.map_congr_left ?_).trans (List.map_id _)
  intro b hb
  refine if_neg ?_
  rintro rfl
  exact h ((Utf8.mem_flatMap_encodeChar_iff (by decide)).mp hb)

theorem decode_spaced_encodeChar (c : Char) (bytes : Bytes) :
    Percent.decode (spaced ((encodeChar c).flatMap Utf8.encodeChar ++ bytes)) =
      Utf8.encodeChar c ++ Percent.decode (spaced bytes) := by
  by_cases hspace : c = ' '
  · subst hspace
    exact Percent.decode_cons_of_ne (by decide) (spaced bytes)
  have hplus : '+' ∉ Percent.encodeChar set c := by
    intro hmem
    exact absurd (Percent.mem_encodeChar hmem) (by decide)
  rw [encodeChar, if_neg hspace, spaced, List.map_append]
  change Percent.decode (spaced _ ++ spaced bytes) = _
  rw [spaced_of_not_mem hplus, Percent.decode_encodeChar rfl]

theorem decode_encodeText (text : String) :
    decode ((encodeText text).flatMap Utf8.encodeChar) = text := by
  have hbytes (chars : List Char) :
      Percent.decode (spaced ((chars.flatMap encodeChar).flatMap Utf8.encodeChar)) =
        chars.flatMap Utf8.encodeChar := by
    induction chars with
    | nil => rfl
    | cons c chars ih =>
      rw [List.flatMap_cons, List.flatMap_append, decode_spaced_encodeChar, ih, List.flatMap_cons]
  change Utf8.decodeLossy (Percent.decode (spaced _)) = text
  rw [encodeText, hbytes]
  exact Utf8.decodeLossy_encode text

/-- The first equals sign is the one between name and value. -/
theorem pair_encodePair (p : String × String) :
    pair ((encodePair p).flatMap Utf8.encodeChar) = p := by
  have hname : ∀ b ∈ (encodeText p.1).flatMap Utf8.encodeChar, decide (b ≠ 0x3D) = true := by
    intro b hb
    rw [decide_eq_true_eq]
    rintro rfl
    have hmem := (Utf8.mem_flatMap_encodeChar_iff (d := '=') (by decide)).mp hb
    exact (isPlain_of_mem_encodeText hmem).ne (by decide) rfl
  have hspan : ((encodePair p).flatMap Utf8.encodeChar).span (· ≠ 0x3D) =
      ((encodeText p.1).flatMap Utf8.encodeChar,
        0x3D :: (encodeText p.2).flatMap Utf8.encodeChar) := by
    rw [encodePair, List.flatMap_append]
    exact Splitting.span_cons_of_forall hname _ (by decide)
  rw [pair, hspan]
  exact Prod.ext (decode_encodeText p.1) (decode_encodeText p.2)

theorem pairs_encode (ps : List (String × String)) : pairs (encode ps) = ps := by
  by_cases hnil : ps = []
  · subst hnil
    rfl
  have hseparator : ∀ part ∈ (ps.map encodePair).map (·.flatMap Utf8.encodeChar), 0x26 ∉ part := by
    intro part hpart hmem
    obtain ⟨chars, hchars, rfl⟩ := List.mem_map.mp hpart
    obtain ⟨p, -, rfl⟩ := List.mem_map.mp hchars
    have hc := (Utf8.mem_flatMap_encodeChar_iff (d := '&') (by decide)).mp hmem
    rcases mem_encodePair hc with hplain | heq
    · exact hplain.ne (by decide) rfl
    · cases heq
  have hsplit : (Utf8.encode (encode ps)).splitOn 0x26 =
      (ps.map encodePair).map (·.flatMap Utf8.encodeChar) := by
    rw [Utf8.encode, encode, String.toList_ofList, Splitting.flatMap_intercalate]
    exact List.splitOn_intercalate 0x26 hseparator (by simpa using hnil)
  have hfilter : ((ps.map encodePair).map (·.flatMap Utf8.encodeChar)).filter (!·.isEmpty) =
      (ps.map encodePair).map (·.flatMap Utf8.encodeChar) := by
    rw [List.filter_eq_self]
    intro part hpart
    obtain ⟨chars, hchars, rfl⟩ := List.mem_map.mp hpart
    obtain ⟨p, -, rfl⟩ := List.mem_map.mp hchars
    have hmem : UInt8.ofNat '='.toNat ∈ (encodePair p).flatMap Utf8.encodeChar :=
      (Utf8.mem_flatMap_encodeChar_iff (by decide)).mpr (by simp [encodePair])
    simpa using List.ne_nil_of_mem hmem
  rw [pairs, hsplit, hfilter, List.map_map, List.map_map]
  refine (List.map_congr_left ?_).trans (List.map_id _)
  intro p _
  exact pair_encodePair p

end SqlClient.Form
