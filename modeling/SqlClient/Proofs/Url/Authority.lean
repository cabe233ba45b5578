import SqlClient.Proofs.Url.Percent
import SqlClient.Proofs.Url.Query
import SqlClient.Proofs.Value.Numeral

namespace SqlClient.Url

open Percent (Passes userinfoSet)

variable {name rest : List Char}

theorem endsAuthority_eq_false {c : Char} (h : c ≠ '/' ∧ c ≠ '?' ∧ c ≠ '#') :
    Family.other.endsAuthority c = false := by
  simp [Family.endsAuthority, Family.isSlash, h]

def IsHostChar (c : Char) : Prop :=
  0x20 < c.toNat ∧ c.toNat < 0x7F ∧ Host.isForbidden c = false

instance (c : Char) : Decidable (IsHostChar c) :=
  inferInstanceAs (Decidable (_ ∧ _))

theorem IsHostChar.ne {c d : Char} (h : IsHostChar c) (hd : Host.isForbidden d = true) : c ≠ d := by
  rintro rfl
  cases h.2.2.symm.trans hd

theorem IsHostChar.endsAuthority {c : Char} (h : IsHostChar c) :
    Family.other.endsAuthority c = false :=
  endsAuthority_eq_false ⟨h.ne rfl, h.ne rfl, h.ne rfl⟩

theorem isHostChar_of_isDigit {c : Char} (h : c.isDigit = true) : IsHostChar c := by
  have hforbidden (d : Char) (hd : Host.isForbidden d = true) : d.isDigit = false := by
    rw [Host.isForbidden, List.contains_iff_mem] at hd
    exact Percent.forall_mem_of_all (P := fun d ↦ d.isDigit = false) (by decide) d hd
  obtain ⟨hlow, hhigh⟩ := Char.isDigit_iff_toNat.mp h
  refine ⟨Nat.lt_of_lt_of_le (by decide) hlow, Nat.lt_of_le_of_lt hhigh (by decide), ?_⟩
  rw [Bool.eq_false_iff]
  intro hc
  cases h.symm.trans (hforbidden c hc)

theorem verbatim_of_isHostChar (h : ∀ c ∈ name, IsHostChar c) : Host.verbatim name = .ok ⟨name⟩ := by
  have hforbidden : name.any Host.isForbidden = false := by
    rw [List.any_eq_false]
    intro c hc
    rw [(h c hc).2.2]
    decide
  have hcontrols : Percent.encode Percent.controls name = name := by
    refine Percent.encode_eq_self fun c hc ↦ ?_
    obtain ⟨hlow, hhigh, -⟩ := h c hc
    refine ⟨by omega, ?_⟩
    rw [Percent.controls, Bool.or_eq_false_iff, decide_eq_false_iff_not, decide_eq_false_iff_not]
    omega
  unfold Host.verbatim
  split
  · exact absurd rfl ((h _ (List.mem_cons_self ..)).ne (d := '[') rfl)
  · rw [hforbidden, hcontrols]
    rfl

theorem splitHost_of_isHostChar (h : ∀ c ∈ name, IsHostChar c) (rest : List Char) :
    splitHost .other false (name ++ ':' :: rest) = (name, ':' :: rest) := by
  induction name with
  | nil => rfl
  | cons c name ih =>
    rw [List.forall_mem_cons] at h
    have hend : (Family.other.endsAuthority c || (c = ':' && !false)) = false := by
      have hcolon := h.1.ne (d := ':') rfl
      simp [h.1.endsAuthority, hcolon]
    rw [List.cons_append, splitHost, hend, if_neg (h.1.ne rfl), if_neg (h.1.ne rfl)]
    dsimp only
    rw [ih h.2]
    rfl

theorem readHost_of_isHostChar (h : ∀ c ∈ name, IsHostChar c) (hname : name ≠ [])
    (rest : List Char) : readHost .other (name ++ ':' :: rest) = .ok (⟨name⟩, ':' :: rest) := by
  rw [readHost_of_splitHost (splitHost_of_isHostChar h rest), if_neg (hname ·.1),
    verbatim_of_isHostChar h]
  rfl

theorem readPort_digits {digits : List Char} (h : ∀ c ∈ digits, c.isDigit = true) {port : Nat}
    (hlimit : Nat.ofDigitChars 10 digits port ≤ 65535) (rest : List Char) :
    readPort port (digits ++ '/' :: rest) =
      .ok (Nat.ofDigitChars 10 digits port, '/' :: rest) := by
  induction digits generalizing port with
  | nil => rfl
  | cons c digits ih =>
    rw [List.forall_mem_cons] at h
    rw [Nat.ofDigitChars_cons, Nat.mul_comm] at hlimit ⊢
    have hle := Numeral.le_ofDigitChars digits (port * 10 + (c.toNat - '0'.toNat))
    have hsmall : ¬ 65535 < port * 10 + (c.toNat - 48) := Nat.not_lt_of_le (Nat.le_trans hle hlimit)
    rw [List.cons_append, readPort, if_pos h.1]
    exact (if_neg hsmall).trans (ih h.2 hlimit)

theorem readPort?_toDigits (port : UInt16) (rest : List Char) :
    readPort? (':' :: (Nat.toDigits 10 port.toNat ++ '/' :: rest)) =
      .ok (some port, '/' :: rest) := by
  have hdigits : ∀ c ∈ Nat.toDigits 10 port.toNat, c.isDigit = true := fun _ ↦
    Nat.isDigit_of_mem_toDigits (by decide) (by decide)
  have hvalue : Nat.ofDigitChars 10 (Nat.toDigits 10 port.toNat) 0 = port.toNat :=
    Nat.ofDigitChars_ten_toDigits
  have hlimit : Nat.ofDigitChars 10 (Nat.toDigits 10 port.toNat) 0 ≤ 65535 :=
    Nat.le_trans (Nat.le_of_eq hvalue) (Nat.le_of_lt_succ port.toNat_lt)
  have hread := readPort_digits hdigits hlimit rest
  obtain ⟨c, digits, hcons⟩ : ∃ c digits, Nat.toDigits 10 port.toNat = c :: digits :=
    List.exists_cons_of_ne_nil Nat.toDigits_ne_nil
  rw [hvalue, hcons] at hread
  rw [hcons, List.forall_mem_cons] at hdigits
  rw [hcons, List.cons_append, readPort?_cons, ← List.cons_append, hread, hdigits.1]
  exact congrArg (fun port ↦ Except.ok (some port, '/' :: rest)) UInt16.ofNat_toNat

theorem ne_of_passes {c d : Char} (h : Passes userinfoSet c) (hd : userinfoSet d = true) : c ≠ d := by
  rintro rfl
  cases h.2.symm.trans hd

theorem lt_of_passes {c : Char} (h : Passes userinfoSet c) : 0x20 < c.toNat := by
  have hset := h.2
  revert hset
  exact Percent.forall_ascii (P := fun c ↦ userinfoSet c = false → 0x20 < c.toNat)
    (by decide +kernel) h.1

variable {user password : List Char}

theorem ofText_of_passes (huser : ∀ c ∈ user, Passes userinfoSet c)
    (hpassword : ∀ c ∈ password, Passes userinfoSet c) :
    Credentials.ofText (user ++ ':' :: password) = ⟨user, password⟩ := by
  have hcolon : ∀ c ∈ user, decide (c ≠ ':') = true := fun c hc ↦
    decide_eq_true (ne_of_passes (huser c hc) rfl)
  rw [Credentials.ofText, Splitting.span_cons_of_forall hcolon password (by decide)]
  dsimp only
  rw [List.tail_cons, Percent.encode_eq_self huser, Percent.encode_eq_self hpassword]

theorem readCredentials_of_passes (huser : ∀ c ∈ user, Passes userinfoSet c)
    (hpassword : ∀ c ∈ password, Passes userinfoSet c)
    (hname : ∀ c ∈ name, Family.other.endsAuthority c = false ∧ c ≠ '@') (rest : List Char) :
    readCredentials .other (user ++ ':' :: password ++ '@' :: name ++ '/' :: rest) =
      .ok (⟨user, password⟩, name ++ '/' :: rest) := by
  have hpasses {c : Char} (hc : Passes userinfoSet c) : Family.other.endsAuthority c = false :=
    endsAuthority_eq_false ⟨ne_of_passes hc rfl, ne_of_passes hc rfl, ne_of_passes hc rfl⟩
  have hauthority : ∀ c ∈ user ++ ':' :: password ++ '@' :: name,
      (!Family.other.endsAuthority c) = true := by
    intro c hc
    rw [Bool.not_eq_true']
    simp only [List.mem_append, List.mem_cons] at hc
    obtain (hc | rfl | hc) | rfl | hc := hc
    · exact hpasses (huser c hc)
    · rfl
    · exact hpasses (hpassword c hc)
    · rfl
    · exact (hname c hc).1
  have hsign : splitAtSign? (user ++ ':' :: password ++ '@' :: name) =
      some (user ++ ':' :: password, name) :=
    splitAtSign?_append (fun hmem ↦ (hname '@' hmem).2 rfl) _
  rw [readCredentials, Splitting.span_cons_of_forall hauthority rest rfl]
  dsimp only
  rw [hsign]
  dsimp only
  rw [if_neg (by simp), ofText_of_passes huser hpassword]

theorem resolve_of_not_mem {segment : List Char} (h : '/' ∉ segment) :
    Path.resolve segment = Path.addLast [] segment := by
  rw [Path.resolve, List.splitOn_eq_singleton h]
  rfl

theorem render_addLast {segment : List Char} (h : ∀ c ∈ segment, Passes Percent.pathSet c) :
    Path.render (Path.addLast [] segment) =
      '/' :: if Path.isDot segment ∨ Path.isDoubleDot segment then [] else segment := by
  by_cases hdouble : Path.isDoubleDot segment = true
  · simp [Path.addLast, Path.shorten, Path.render, hdouble]
  by_cases hdot : Path.isDot segment = true
  · simp [Path.addLast, Path.render, hdouble, hdot]
  · simp [Path.addLast, Path.add, Path.render, hdouble, hdot, Percent.encode_eq_self h]

theorem undot_cons_of_ne {c : Char} (h : c ≠ '%') (rest : List Char) :
    Path.undot (c :: rest) = c :: Path.undot rest := by
  rw [Path.undot]
  · exact fun _ hc _ ↦ h hc
  · exact fun _ hc _ ↦ h hc

theorem undot_encodeByte {b : UInt8} (h : b ≠ 0x2E) (rest : List Char) :
    ∃ more, Path.undot (Percent.encodeByte b ++ rest) = '%' :: more := by
  have hbyte : b.toNat < 256 := b.toNat_lt
  have hhigh : ∀ n < 16, Percent.hexDigit n = '2' → n = 2 := by decide
  have hlow : ∀ n < 16, Percent.hexDigit n ≠ 'e' ∧ (Percent.hexDigit n = 'E' → n = 14) := by decide
  refine ⟨Path.undot (Percent.hexDigit (b.toNat / 16) :: Percent.hexDigit (b.toNat % 16) :: rest), ?_⟩
  rw [Percent.encodeByte, List.cons_append, Path.undot]
  · rfl
  · intro rest' _ hrest
    obtain ⟨-, htail⟩ := List.cons.inj hrest
    exact (hlow _ (Nat.mod_lt _ (by decide))).1 (List.cons.inj htail).1
  · intro rest' _ hrest
    obtain ⟨htwo, htail⟩ := List.cons.inj hrest
    have hdiv := hhigh _ (by omega) htwo
    have hmod := (hlow _ (Nat.mod_lt _ (by decide))).2 (List.cons.inj htail).1
    apply h
    rw [← UInt8.toNat_inj]
    change b.toNat = 46
    omega

section

variable {set : Percent.EncodeSet} (hdot : set '.' = true) (hpercent : set '%' = true)

include hdot in
theorem undot_encodeChar_dot (rest : List Char) :
    Path.undot (Percent.encodeChar set '.' ++ rest) = '.' :: Path.undot rest := by
  rw [Percent.encodeChar_of_not_passes (fun h ↦ by cases hdot.symm.trans h.2)]
  rfl

include hpercent in
theorem undot_encodeChar {c : Char} (h : c ≠ '.') (rest : List Char) :
    ∃ d more, Path.undot (Percent.encodeChar set c ++ rest) = d :: more ∧ d ≠ '.' := by
  -- either the character itself comes first or a percent sign, and no escape but the dot's own is
  -- read as a dot
  by_cases hpasses : Passes set c
  · have hne : c ≠ '%' := by
      rintro rfl
      cases hpercent.symm.trans hpasses.2
    rw [Percent.encodeChar_of_passes hpasses]
    exact ⟨c, _, undot_cons_of_ne hne rest, h⟩
  · obtain ⟨b, bytes, hbytes, -⟩ := Utf8.readChar_encodeChar c []
    have hb : b ≠ 0x2E := by
      rintro rfl
      have hmem : 0x2E ∈ Utf8.encodeChar c := hbytes ▸ List.mem_cons_self ..
      exact h ((Utf8.mem_encodeChar_iff (d := '.') (by decide)).mp hmem)
    rw [Percent.encodeChar_of_not_passes hpasses, hbytes, List.flatMap_cons, List.append_assoc]
    obtain ⟨more, hmore⟩ := undot_encodeByte hb (bytes.flatMap Percent.encodeByte ++ rest)
    exact ⟨'%', more, hmore, by decide⟩

include hdot hpercent in
/-- An escape of a dot is taken for the dot. -/
theorem undot_encode_iff (text : List Char) (n : Nat) :
    Path.undot (Percent.encode set text) = List.replicate n '.' ↔ text = List.replicate n '.' := by
  induction text generalizing n with
  | nil => rfl
  | cons c text ih =>
    change Path.undot (Percent.encodeChar set c ++ Percent.encode set text) = _ ↔ _
    by_cases hc : c = '.'
    · rw [hc, undot_encodeChar_dot hdot]
      cases n with
      | zero => simp
      | succ n => rw [List.replicate_succ, List.cons.injEq, List.cons.injEq, ih]
    · obtain ⟨d, more, hundot, hd⟩ := undot_encodeChar hpercent hc (Percent.encode set text)
      rw [hundot]
      cases n with
      | zero => simp
      | succ n => simp [List.replicate_succ, hc, hd]

end

theorem withAuthority_of_parts (scheme : String) (huser : ∀ c ∈ user, Passes userinfoSet c)
    (hpassword : ∀ c ∈ password, Passes userinfoSet c) (hsome : password ≠ [])
    (hname : ∀ c ∈ name, IsHostChar c) (hne : name ≠ []) (port : UInt16) {segment : List Char}
    (hsegment : IsPath segment) :
    withAuthority .other scheme (user ++ ':' :: password ++ '@' ::
        (name ++ ':' :: Nat.toDigits 10 port.toNat) ++ '/' :: segment) =
      .ok {
        scheme := scheme
        username := String.ofList user
        password := some (String.ofList password)
        host := some (String.ofList name)
        port := some port
        path := String.ofList (Path.render (Path.resolve segment)) } := by
  have hafter : ∀ c ∈ name ++ ':' :: Nat.toDigits 10 port.toNat,
      Family.other.endsAuthority c = false ∧ c ≠ '@' := by
    intro c hc
    simp only [List.mem_append, List.mem_cons] at hc
    obtain hc | rfl | hc := hc
    · exact ⟨(hname c hc).endsAuthority, (hname c hc).ne rfl⟩
    · decide
    · have hdigit := isHostChar_of_isDigit (Nat.isDigit_of_mem_toDigits (by decide) (by decide) hc)
      exact ⟨hdigit.endsAuthority, hdigit.ne rfl⟩
  have hcredentials := readCredentials_of_passes huser hpassword hafter segment
  have hhost : readHost .other (name ++ ':' :: Nat.toDigits 10 port.toNat ++ '/' :: segment) =
      .ok (⟨name⟩, ':' :: (Nat.toDigits 10 port.toNat ++ '/' :: segment)) := by
    rw [List.append_assoc]
    exact readHost_of_isHostChar hname hne _
  have hpath : IsPath ('/' :: segment) := List.forall_mem_cons.mpr ⟨by decide, hsegment⟩
  rw [withAuthority_of_reads hcredentials hhost (readPort?_toDigits port segment), if_neg, ofParts,
    splitQuery_of_isPath hpath]
  · simp [hsome, hne, pathOf]
  · simp [hne]

end SqlClient.Url
