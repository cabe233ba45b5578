import SqlClient.Options
import SqlClient.Proofs.Text.Spelling
import SqlClient.Proofs.Url.Form
import SqlClient.Proofs.Url.Query
import SqlClient.Proofs.Value.Integer

namespace SqlClient.Options

variable {options changed : Options} {pair : String × String} {pairs : List (String × String)}

def SpellsFlag (value : String) : Bool → Prop
  | true => value = "1" ∨ SpellsName value.toList "true"
  | false => value = "0" ∨ SpellsName value.toList "false"

/-- A decimal number of 64 bits, with a plus sign or none. -/
def SpellsMillis (value : String) (millis : Nat) : Prop :=
  ∃ numeral : Numeral, numeral.sign ≠ .minus ∧ numeral.chars = value.toList ∧
    numeral.magnitude = millis ∧ millis < 2 ^ 64

def SpellsTimeout (value : String) : Option Nat → Prop
  | none => SpellsMillis value 0
  | some millis => SpellsMillis value millis ∧ 0 < millis

inductive Setting
  | noDelay (flag : Bool)
  | readTimeout (timeout : Option Nat)
  | writeTimeout (timeout : Option Nat)

namespace Setting

def key : Setting → String
  | noDelay _ => "tcp_nodelay"
  | readTimeout _ => "read_timeout"
  | writeTimeout _ => "write_timeout"

def SpelledBy (value : String) : Setting → Prop
  | noDelay flag => SpellsFlag value flag
  | readTimeout timeout => SpellsTimeout value timeout
  | writeTimeout timeout => SpellsTimeout value timeout

def apply (options : Options) : Setting → Options
  | noDelay flag => { options with tcpNoDelay := flag }
  | readTimeout timeout => { options with readTimeout := timeout }
  | writeTimeout timeout => { options with writeTimeout := timeout }

theorem key_eq_noDelay_iff (setting : Setting) :
    setting.key = "tcp_nodelay" ↔ ∃ flag, setting = .noDelay flag := by
  cases setting <;> simp [key]

theorem key_eq_readTimeout_iff (setting : Setting) :
    setting.key = "read_timeout" ↔ ∃ timeout, setting = .readTimeout timeout := by
  cases setting <;> simp [key]

theorem key_eq_writeTimeout_iff (setting : Setting) :
    setting.key = "write_timeout" ↔ ∃ timeout, setting = .writeTimeout timeout := by
  cases setting <;> simp [key]

/-- Settings of different keys change different fields. -/
theorem apply_comm {first second : Setting} (h : first.key ≠ second.key) (options : Options) :
    second.apply (first.apply options) = first.apply (second.apply options) := by
  cases first with
  | noDelay =>
    cases second with
    | noDelay => exact absurd rfl h
    | readTimeout | writeTimeout => rfl
  | readTimeout =>
    cases second with
    | readTimeout => exact absurd rfl h
    | noDelay | writeTimeout => rfl
  | writeTimeout =>
    cases second with
    | writeTimeout => exact absurd rfl h
    | noDelay | readTimeout => rfl

end Setting

def Says (pair : String × String) (setting : Setting) : Prop :=
  setting.key = pair.1 ∧ setting.SpelledBy pair.2

def IsParameter (pair : String × String) : Prop :=
  ∃ setting, Says pair setting

/-- What a parameter that is refused is told. -/
inductive Complaint : String × String → String → Prop
  | unknown {key value : String} (h : key ∉ ["tcp_nodelay", "read_timeout", "write_timeout"]) :
    Complaint (key, value) ("Unknown connection parameter '" ++ key ++ "'")
  | flag {key value : String} (hkey : key = "tcp_nodelay") (h : ¬ ∃ flag, SpellsFlag value flag) :
    Complaint (key, value) ("Invalid boolean value '" ++ value ++ "' for '" ++ key ++ "'")
  | timeout {key value : String} {cause : IntegerError}
      (hkey : key = "read_timeout" ∨ key = "write_timeout")
      (h : Integer.readUnsigned (2 ^ 64 - 1) value.toList = .error cause) :
    Complaint (key, value) ("Invalid timeout '" ++ value ++ "' for '" ++ key ++ "': " ++ cause.text)

theorem spellsFlag_iff {value : String} : ∀ {flag : Bool}, SpellsFlag value flag ↔
    value = cond flag "1" "0" ∨
      value.toList.map Char.toLower = (cond flag "true" "false").toList
  | true => or_congr_right (map_toLower_eq_iff (by simp)).symm
  | false => or_congr_right (map_toLower_eq_iff (by simp)).symm

theorem not_spellsFlag_false {value : String} (h : SpellsFlag value true) :
    ¬ SpellsFlag value false := by
  rw [spellsFlag_iff] at h ⊢
  rintro (rfl | hfalse)
  · exact absurd h (by decide)
  · obtain rfl | htrue := h
    · exact absurd hfalse (by decide)
    · exact absurd (hfalse.symm.trans htrue) (by decide)

theorem readBool_eq_ok_iff {key value : String} {flag : Bool} :
    readBool key value = .ok flag ↔ SpellsFlag value flag := by
  unfold readBool
  dsimp only
  split
  · next h =>
    have htrue : SpellsFlag value true := spellsFlag_iff.mpr h
    cases flag with
    | true => simp [htrue]
    | false => simp [not_spellsFlag_false htrue]
  next h =>
  have htrue : ¬ SpellsFlag value true := mt spellsFlag_iff.mp h
  split
  · next h =>
    have hfalse : SpellsFlag value false := spellsFlag_iff.mpr h
    cases flag with
    | true => simp [htrue]
    | false => simp [hfalse]
  · next h =>
    have hfalse : ¬ SpellsFlag value false := mt spellsFlag_iff.mp h
    cases flag with
    | true => simp [htrue]
    | false => simp [hfalse]

theorem readUnsigned_iff {value : String} {millis : Nat} :
    Integer.readUnsigned (UInt64.size - 1) value.toList = .ok millis ↔
      SpellsMillis value millis := by
  have hlimit : millis ≤ UInt64.size - 1 ↔ millis < 2 ^ 64 := by
    change millis ≤ 2 ^ 64 - 1 ↔ _
    omega
  rw [Integer.readUnsigned_eq_ok_iff, hlimit]
  rfl

theorem spellsMillis_unique {value : String} {m n : Nat} (hm : SpellsMillis value m)
    (hn : SpellsMillis value n) : m = n :=
  Except.ok.inj ((readUnsigned_iff.mpr hm).symm.trans (readUnsigned_iff.mpr hn))

theorem readTimeoutValue_eq_ok_iff {key value : String} {timeout : Option Nat} :
    readTimeoutValue key value = .ok timeout ↔ SpellsTimeout value timeout := by
  unfold readTimeoutValue
  split
  · next millis hread =>
    have hmillis := readUnsigned_iff.mp hread
    have hiff (n : Nat) : SpellsMillis value n ↔ n = millis :=
      ⟨fun hn ↦ spellsMillis_unique hn hmillis, fun hn ↦ hn ▸ hmillis⟩
    cases timeout with
    | none =>
      simp only [SpellsTimeout, hiff, Except.ok.injEq, ite_eq_right_iff, reduceCtorEq, imp_false]
      omega
    | some n =>
      simp only [SpellsTimeout, hiff, Except.ok.injEq, Option.ite_none_right_eq_some,
        Option.some.injEq]
      omega
  · next cause hread =>
    have hnone (n : Nat) : ¬ SpellsMillis value n := by
      intro hn
      cases hread.symm.trans (readUnsigned_iff.mpr hn)
    cases timeout with
    | none => simp [SpellsTimeout, hnone]
    | some n => simp [SpellsTimeout, hnone]

theorem readBool_eq_error {key value : String} {error : Error}
    (h : readBool key value = .error error) :
    (¬ ∃ flag, SpellsFlag value flag) ∧
      error = .badConfig ("Invalid boolean value '" ++ value ++ "' for '" ++ key ++ "'") := by
  refine ⟨?_, ?_⟩
  · rintro ⟨flag, hflag⟩
    cases h.symm.trans (readBool_eq_ok_iff.mpr hflag)
  · unfold readBool at h
    dsimp only at h
    split at h
    · cases h
    split at h
    · cases h
    · exact (Except.error.inj h).symm

theorem readTimeoutValue_eq_error {key value : String} {error : Error}
    (h : readTimeoutValue key value = .error error) :
    ∃ cause, Integer.readUnsigned (UInt64.size - 1) value.toList = .error cause ∧
      error = .badConfig
        ("Invalid timeout '" ++ value ++ "' for '" ++ key ++ "': " ++ cause.text) := by
  unfold readTimeoutValue at h
  split at h
  · cases h
  · next cause hread => exact ⟨cause, hread, (Except.error.inj h).symm⟩

/-- A parameter of a key that there is says what its value is read as. -/
theorem apply_eq_ok_iff {α : Type} {key value : String} {read : Except Error α}
    (setting : α → Setting) (hread : ∀ a, read = .ok a ↔ (setting a).SpelledBy value)
    (hkey : ∀ s : Setting, s.key = key ↔ ∃ a, s = setting a) :
    (do return (setting (← read)).apply options) = .ok changed ↔
      ∃ s, Says (key, value) s ∧ changed = s.apply options := by
  rw [Url.bind_eq_ok]
  constructor
  · rintro ⟨a, ha, h⟩
    cases h
    exact ⟨setting a, ⟨(hkey _).mpr ⟨a, rfl⟩, (hread a).mp ha⟩, rfl⟩
  · rintro ⟨s, ⟨hs, hspelled⟩, rfl⟩
    obtain ⟨a, rfl⟩ := (hkey s).mp hs
    exact ⟨a, (hread a).mpr hspelled, rfl⟩

theorem setParameter_eq_ok_iff :
    setParameter options pair = .ok changed ↔
      ∃ setting, Says pair setting ∧ changed = setting.apply options := by
  unfold setParameter
  split
  · exact apply_eq_ok_iff .noDelay (fun _ ↦ readBool_eq_ok_iff) Setting.key_eq_noDelay_iff
  · exact apply_eq_ok_iff .readTimeout (fun _ ↦ readTimeoutValue_eq_ok_iff)
      Setting.key_eq_readTimeout_iff
  · exact apply_eq_ok_iff .writeTimeout (fun _ ↦ readTimeoutValue_eq_ok_iff)
      Setting.key_eq_writeTimeout_iff
  · next key value hnoDelay hread hwrite =>
    refine iff_of_false nofun ?_
    rintro ⟨setting, ⟨hkey, -⟩, -⟩
    cases setting with
    | noDelay => exact hnoDelay hkey.symm
    | readTimeout => exact hread hkey.symm
    | writeTimeout => exact hwrite hkey.symm

theorem eq_error_of_apply {α : Type} {read : Except Error α} (setting : α → Setting)
    {error : Error} (h : (do return (setting (← read)).apply options) = Except.error error) :
    read = .error error := by
  cases read with
  | error => exact congrArg Except.error (Except.error.inj h)
  | ok a => cases h

theorem complaint_of_setParameter {error : Error} (h : setParameter options pair = .error error) :
    ∃ text, Complaint pair text ∧ error = .badConfig text := by
  unfold setParameter at h
  split at h
  · obtain ⟨hflag, rfl⟩ := readBool_eq_error (eq_error_of_apply .noDelay h)
    exact ⟨_, .flag rfl hflag, rfl⟩
  · obtain ⟨cause, hread, rfl⟩ := readTimeoutValue_eq_error (eq_error_of_apply .readTimeout h)
    exact ⟨_, .timeout (.inl rfl) hread, rfl⟩
  · obtain ⟨cause, hread, rfl⟩ := readTimeoutValue_eq_error (eq_error_of_apply .writeTimeout h)
    exact ⟨_, .timeout (.inr rfl) hread, rfl⟩
  · next key value hnoDelay hread hwrite =>
    cases h
    refine ⟨_, .unknown ?_, rfl⟩
    simp only [List.mem_cons, List.not_mem_nil, or_false, not_or]
    exact ⟨hnoDelay, hread, hwrite⟩

theorem isParameter_iff (options : Options) :
    IsParameter pair ↔ (setParameter options pair).isOk = true := by
  cases h : setParameter options pair with
  | ok changed =>
    obtain ⟨setting, hsaid, -⟩ := setParameter_eq_ok_iff.mp h
    exact iff_of_true ⟨setting, hsaid⟩ rfl
  | error error =>
    refine iff_of_false ?_ nofun
    rintro ⟨setting, hsaid⟩
    cases h.symm.trans (setParameter_eq_ok_iff.mpr ⟨setting, hsaid, rfl⟩)

instance (pair : String × String) : Decidable (IsParameter pair) :=
  decidable_of_iff _ (isParameter_iff {}).symm

theorem foldlM_cons_eq_ok_iff :
    (pair :: pairs).foldlM setParameter options = .ok changed ↔
      ∃ setting, Says pair setting ∧
        pairs.foldlM setParameter (setting.apply options) = .ok changed := by
  rw [List.foldlM_cons, Url.bind_eq_ok]
  constructor
  · rintro ⟨next, hnext, hrest⟩
    obtain ⟨setting, hsaid, rfl⟩ := setParameter_eq_ok_iff.mp hnext
    exact ⟨setting, hsaid, hrest⟩
  · rintro ⟨setting, hsaid, hrest⟩
    exact ⟨_, setParameter_eq_ok_iff.mpr ⟨setting, hsaid, rfl⟩, hrest⟩

theorem foldlM_eq_ok_iff_forall :
    (∃ changed, pairs.foldlM setParameter options = .ok changed) ↔
      ∀ pair ∈ pairs, IsParameter pair := by
  induction pairs generalizing options with
  | nil => simp [pure, Except.pure]
  | cons pair pairs ih =>
    rw [List.forall_mem_cons]
    constructor
    · rintro ⟨changed, h⟩
      obtain ⟨setting, hsaid, hrest⟩ := foldlM_cons_eq_ok_iff.mp h
      exact ⟨⟨setting, hsaid⟩, ih.mp ⟨changed, hrest⟩⟩
    · rintro ⟨⟨setting, hsaid⟩, hpairs⟩
      obtain ⟨changed, hrest⟩ := ih.mpr hpairs
      exact ⟨changed, foldlM_cons_eq_ok_iff.mpr ⟨setting, hsaid, hrest⟩⟩

/-- The first parameter that is refused ends the reading. -/
theorem foldlM_eq_error {front back : List (String × String)}
    (hfront : ∀ pair ∈ front, IsParameter pair) (hpair : ¬ IsParameter pair) :
    ∃ text, Complaint pair text ∧
      (front ++ pair :: back).foldlM setParameter options = .error (.badConfig text) := by
  obtain ⟨next, hnext⟩ := foldlM_eq_ok_iff_forall.mpr hfront
  cases hset : setParameter next pair with
  | ok changed =>
    obtain ⟨setting, hsaid, -⟩ := setParameter_eq_ok_iff.mp hset
    exact absurd ⟨setting, hsaid⟩ hpair
  | error error =>
    obtain ⟨text, hcomplaint, rfl⟩ := complaint_of_setParameter hset
    refine ⟨text, hcomplaint, ?_⟩
    rw [List.foldlM_append, hnext]
    change (setParameter next pair >>= _) = _
    rw [hset]
    rfl

/-- No parameter changes anything but the three settings. -/
theorem eq_of_foldlM (h : pairs.foldlM setParameter options = .ok changed) :
    changed = { options with
      tcpNoDelay := changed.tcpNoDelay
      readTimeout := changed.readTimeout
      writeTimeout := changed.writeTimeout } := by
  induction pairs generalizing options with
  | nil =>
    cases h
    rfl
  | cons pair pairs ih =>
    obtain ⟨setting, -, hrest⟩ := foldlM_cons_eq_ok_iff.mp h
    refine (ih hrest).trans ?_
    cases setting <;> rfl

/-- What the last pair of the key is read as; without one it stays as it is. -/
def LastGives {α : Type} (key : String) (spells : String → α → Prop) (initial : α)
    (pairs : List (String × String)) (a : α) : Prop :=
  match pairs.reverse.lookup key with
  | some value => spells value a
  | none => a = initial

theorem lookup_reverse_cons (key : String) (pair : String × String)
    (pairs : List (String × String)) :
    (pair :: pairs).reverse.lookup key =
      (pairs.reverse.lookup key).or (if pair.1 = key then some pair.2 else none) := by
  rw [List.reverse_cons, List.lookup_append, List.lookup_cons]
  by_cases h : pair.1 = key
  · simp [h]
  · simp [h, beq_eq_false_iff_ne.mpr (Ne.symm h)]

/-- A field is given by the last pair of its key if no other setting changes it. -/
theorem lastGives_of_foldlM {α : Type} {key : String} (setting : α → Setting) (field : Options → α)
    (hkey : ∀ s : Setting, s.key = key ↔ ∃ a, s = setting a)
    (hset : ∀ (a : α) (options : Options), field ((setting a).apply options) = a)
    (hkeep : ∀ (s : Setting) (options : Options), s.key ≠ key →
      field (s.apply options) = field options)
    (h : pairs.foldlM setParameter options = .ok changed) :
    LastGives key (fun value a ↦ (setting a).SpelledBy value) (field options) pairs
      (field changed) := by
  induction pairs generalizing options with
  | nil =>
    cases h
    rfl
  | cons pair pairs ih =>
    obtain ⟨s, ⟨hs, hspelled⟩, hrest⟩ := foldlM_cons_eq_ok_iff.mp h
    have hlast := ih hrest
    -- the pairs behind this one come first: it counts only if none of them has the key
    unfold LastGives at hlast ⊢
    rw [lookup_reverse_cons]
    cases hlookup : pairs.reverse.lookup key with
    | some value =>
      rw [hlookup] at hlast
      exact hlast
    | none =>
      rw [hlookup] at hlast
      by_cases hpair : pair.1 = key
      · obtain ⟨a, rfl⟩ := (hkey s).mp (hs.trans hpair)
        have hfield : field changed = a := hlast.trans (hset a options)
        rw [if_pos hpair, hfield]
        exact hspelled
      · rw [if_neg hpair]
        exact hlast.trans (hkeep s options (hs ▸ hpair))

theorem lastGives_tcpNoDelay (h : pairs.foldlM setParameter options = .ok changed) :
    LastGives "tcp_nodelay" SpellsFlag options.tcpNoDelay pairs changed.tcpNoDelay := by
  refine lastGives_of_foldlM .noDelay Options.tcpNoDelay Setting.key_eq_noDelay_iff
    (fun _ _ ↦ rfl) ?_ h
  rintro (_ | _ | _) options hkey
  · exact absurd rfl hkey
  · rfl
  · rfl

theorem lastGives_readTimeout (h : pairs.foldlM setParameter options = .ok changed) :
    LastGives "read_timeout" SpellsTimeout options.readTimeout pairs changed.readTimeout := by
  refine lastGives_of_foldlM .readTimeout Options.readTimeout Setting.key_eq_readTimeout_iff
    (fun _ _ ↦ rfl) ?_ h
  rintro (_ | _ | _) options hkey
  · rfl
  · exact absurd rfl hkey
  · rfl

theorem lastGives_writeTimeout (h : pairs.foldlM setParameter options = .ok changed) :
    LastGives "write_timeout" SpellsTimeout options.writeTimeout pairs changed.writeTimeout := by
  refine lastGives_of_foldlM .writeTimeout Options.writeTimeout Setting.key_eq_writeTimeout_iff
    (fun _ _ ↦ rfl) ?_ h
  rintro (_ | _ | _) options hkey
  · rfl
  · rfl
  · exact absurd rfl hkey

theorem foldlM_cons_comm {first second : String × String} (h : first.1 ≠ second.1)
    (hok : (first :: second :: pairs).foldlM setParameter options = .ok changed) :
    (second :: first :: pairs).foldlM setParameter options = .ok changed := by
  obtain ⟨setting, hsaid, hrest⟩ := foldlM_cons_eq_ok_iff.mp hok
  obtain ⟨setting', hsaid', hrest⟩ := foldlM_cons_eq_ok_iff.mp hrest
  have hkeys : setting.key ≠ setting'.key := by
    rw [hsaid.1, hsaid'.1]
    exact h
  rw [Setting.apply_comm hkeys] at hrest
  refine foldlM_cons_eq_ok_iff.mpr ⟨setting', hsaid', ?_⟩
  exact foldlM_cons_eq_ok_iff.mpr ⟨setting, hsaid, hrest⟩

/-- Neighbours of different keys may change places. -/
theorem foldlM_swap {first second : String × String} (h : first.1 ≠ second.1)
    (front back : List (String × String)) :
    (front ++ first :: second :: back).foldlM setParameter options = .ok changed ↔
      (front ++ second :: first :: back).foldlM setParameter options = .ok changed := by
  rw [List.foldlM_append, List.foldlM_append, Url.bind_eq_ok, Url.bind_eq_ok]
  exact exists_congr fun next ↦ and_congr_right fun _ ↦
    ⟨foldlM_cons_comm h, foldlM_cons_comm h.symm⟩

theorem ofUrl_of_parse {text : String} {url : Url} (h : Url.parse text = .ok url)
    (hscheme : url.scheme = scheme) :
    ofUrl text = (Form.pairs (url.query.getD "")).foldlM setParameter (ofAddress url) := by
  simp only [ofUrl, h, Except.mapError, bind, Except.bind, hscheme, ne_eq, not_true, if_false]

theorem exists_parse_of_ofUrl {text : String} (h : ofUrl text = .ok options) :
    ∃ url, Url.parse text = .ok url ∧ url.scheme = scheme := by
  cases hparse : Url.parse text with
  | error error =>
    rw [ofUrl, hparse] at h
    cases h
  | ok url =>
    by_cases hscheme : url.scheme = scheme
    · exact ⟨url, rfl, hscheme⟩
    · simp only [ofUrl, hparse, Except.mapError, bind, Except.bind, ne_eq, hscheme, not_false_eq_true,
        if_true] at h
      cases h

def withParameters (text : String) (pairs : List (String × String)) : String :=
  text ++ "?" ++ Form.encode pairs

theorem ofUrl_withParameters {text : String} (h : ofUrl text = .ok options)
    (hplain : ∀ c ∈ text.toList, c ≠ '?' ∧ c ≠ '#' ∧ 0x20 < c.toNat)
    (hlone : text.toList.map Char.toLower ≠ "mysql://@".toList)
    (pairs : List (String × String)) :
    ofUrl (withParameters text pairs) = pairs.foldlM setParameter options ∧
      options.tcpNoDelay = true ∧ options.readTimeout = none ∧ options.writeTimeout = none := by
  obtain ⟨url, hparse, hscheme⟩ := exists_parse_of_ofUrl h
  have hpath : Url.IsPath text.toList := fun c hc ↦ ⟨(hplain c hc).1, (hplain c hc).2.1⟩
  have hblank : ∀ c ∈ text.toList, 0x20 < c.toNat := fun c hc ↦ (hplain c hc).2.2
  have hfamily : Url.Family.ofScheme url.scheme = .other := by
    rw [hscheme]
    decide
  have hencoded : ∀ c ∈ (Form.encode pairs).toList, 0x20 < c.toNat ∧ c ≠ '#' := fun _ ↦
    Form.lt_and_ne_of_mem_encode
  obtain ⟨hquery, happend⟩ :=
    Url.parse_append_query hpath hblank hencoded hfamily (hscheme ▸ hlone) hparse
  have hoptions : options = ofAddress url := by
    rw [ofUrl_of_parse hparse hscheme, hquery] at h
    exact (Except.ok.inj h).symm
  rw [String.ofList_toList] at happend
  rw [withParameters, ofUrl_of_parse happend hscheme, Option.getD_some, Form.pairs_encode, hoptions]
  exact ⟨rfl, rfl, rfl, rfl⟩

/-- Parameters are accepted if each of them is one, and the first that is not is refused. The last one
of a key counts, whatever stands between it and others of that key. A URL that ends in a lone at sign
takes no query at all. -/
theorem parameters_checked {text : String} (h : ofUrl text = .ok options)
    (hplain : ∀ c ∈ text.toList, c ≠ '?' ∧ c ≠ '#' ∧ 0x20 < c.toNat)
    (hlone : text.toList.map Char.toLower ≠ "mysql://@".toList)
    (pairs : List (String × String)) :
    ((∃ changed, ofUrl (withParameters text pairs) = .ok changed) ↔
      ∀ pair ∈ pairs, IsParameter pair) ∧
    (∀ front pair back, pairs = front ++ pair :: back → (∀ pair ∈ front, IsParameter pair) →
      ¬ IsParameter pair → ∃ complaint, Complaint pair complaint ∧
        ofUrl (withParameters text pairs) = .error (.badConfig complaint)) ∧
    (∀ changed, ofUrl (withParameters text pairs) = .ok changed →
      LastGives "tcp_nodelay" SpellsFlag true pairs changed.tcpNoDelay ∧
        LastGives "read_timeout" SpellsTimeout none pairs changed.readTimeout ∧
        LastGives "write_timeout" SpellsTimeout none pairs changed.writeTimeout ∧
        changed = { options with
          tcpNoDelay := changed.tcpNoDelay
          readTimeout := changed.readTimeout
          writeTimeout := changed.writeTimeout }) ∧
    ∀ front first second back changed, pairs = front ++ first :: second :: back →
      first.1 ≠ second.1 →
        (ofUrl (withParameters text pairs) = .ok changed ↔
          ofUrl (withParameters text (front ++ second :: first :: back)) = .ok changed) := by
  have hurl (pairs : List (String × String)) := (ofUrl_withParameters h hplain hlone pairs).1
  obtain ⟨-, hnoDelay, hread, hwrite⟩ := ofUrl_withParameters h hplain hlone []
  refine ⟨?_, ?_, ?_, ?_⟩
  · rw [hurl]
    exact foldlM_eq_ok_iff_forall
  · rintro front pair back rfl hfront hpair
    rw [hurl]
    exact foldlM_eq_error hfront hpair
  · intro changed hchanged
    rw [hurl] at hchanged
    exact ⟨hnoDelay ▸ lastGives_tcpNoDelay hchanged, hread ▸ lastGives_readTimeout hchanged,
      hwrite ▸ lastGives_writeTimeout hchanged, eq_of_foldlM hchanged⟩
  · rintro front first second back changed rfl hne
    rw [hurl, hurl]
    exact foldlM_swap hne front back

/-- A parameter that is overridden changes nothing, and is refused all the same if it is none. -/
theorem parameters_checked_overridden :
    ofUrl "mysql://root@localhost/test" =
        .ok { host := some "localhost", user := "root", database := some "test" } ∧
      (∀ c ∈ "mysql://root@localhost/test".toList, c ≠ '?' ∧ c ≠ '#' ∧ 0x20 < c.toNat) ∧
      "mysql://root@localhost/test".toList.map Char.toLower ≠ "mysql://@".toList ∧
      (∃ changed,
        ofUrl (withParameters "mysql://root@localhost/test"
          [("read_timeout", "1500"), ("tcp_nodelay", "FALSE"), ("read_timeout", "+0")]) =
            .ok changed ∧
          SpellsFlag "FALSE" changed.tcpNoDelay ∧ SpellsTimeout "+0" changed.readTimeout ∧
          changed.writeTimeout = none) ∧
      ∃ complaint, Complaint ("read_timeout", "soon") complaint ∧
        ofUrl (withParameters "mysql://root@localhost/test"
          [("read_timeout", "soon"), ("read_timeout", "0")]) = .error (.badConfig complaint) := by
  have hurl : ofUrl "mysql://root@localhost/test" =
      .ok { host := some "localhost", user := "root", database := some "test" } := by
    decide +kernel
  have hplain : ∀ c ∈ "mysql://root@localhost/test".toList, c ≠ '?' ∧ c ≠ '#' ∧ 0x20 < c.toNat :=
    Percent.forall_mem_of_all (by decide)
  have hlone : "mysql://root@localhost/test".toList.map Char.toLower ≠ "mysql://@".toList := by
    decide
  obtain ⟨haccepted, -, hlast, -⟩ := parameters_checked hurl hplain hlone
    [("read_timeout", "1500"), ("tcp_nodelay", "FALSE"), ("read_timeout", "+0")]
  obtain ⟨-, hrefused, -, -⟩ := parameters_checked hurl hplain hlone
    [("read_timeout", "soon"), ("read_timeout", "0")]
  refine ⟨hurl, hplain, hlone, ?_, hrefused [] _ _ rfl nofun (by decide)⟩
  obtain ⟨changed, hchanged⟩ := haccepted.mpr (by decide)
  obtain ⟨hnoDelay, hread, hwrite, -⟩ := hlast changed hchanged
  exact ⟨changed, hchanged, hnoDelay, hread, hwrite⟩

/-- A lone at sign is a URL of its own, and none in front of a query. -/
theorem parameters_refused_lone_at_sign :
    ofUrl "mysql://@" = .ok {} ∧
      (∀ c ∈ "mysql://@".toList, c ≠ '?' ∧ c ≠ '#' ∧ 0x20 < c.toNat) ∧
      IsParameter ("tcp_nodelay", "1") ∧
      ofUrl (withParameters "mysql://@" [("tcp_nodelay", "1")]) =
        .error (.badConfig "Failed to parse MySQL URL: empty host") := by
  refine ⟨by decide +kernel, Percent.forall_mem_of_all (by decide), by decide, by decide +kernel⟩

end SqlClient.Options
