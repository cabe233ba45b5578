import SqlClient.Proofs.Text.Splitting
import SqlClient.Url.Basic

namespace SqlClient.Url

variable {text query : List Char}

theorem bind_eq_ok {ε α β : Type} {x : Except ε α} {f : α → Except ε β} {b : β} :
    (x >>= f) = .ok b ↔ ∃ a, x = .ok a ∧ f a = .ok b := by
  cases x with
  | error error => simp [bind, Except.bind]
  | ok a => simp [bind, Except.bind]

theorem dropWhile_isBlank (h : ∀ c ∈ text, 0x20 < c.toNat) : text.dropWhile isBlank = text := by
  cases text with
  | nil => rfl
  | cons c text =>
    have hc : isBlank c = false := decide_eq_false (Nat.not_le_of_lt (h c (List.mem_cons_self ..)))
    rw [List.dropWhile_cons, hc]
    rfl

theorem clean_eq_self (h : ∀ c ∈ text, 0x20 < c.toNat) : clean text = text := by
  have hreverse : ∀ c ∈ text.reverse, 0x20 < c.toNat := by simpa using h
  have hbreak : ∀ c ∈ text, (!isLineBreak c) = true := by
    intro c hc
    have hne (d : Char) (hd : d.toNat ≤ 0x20) : c ≠ d := by
      rintro rfl
      exact absurd (h c hc) (Nat.not_lt_of_le hd)
    simp [isLineBreak, hne '\t' (by decide), hne '\n' (by decide), hne '\r' (by decide)]
  rw [clean, dropWhile_isBlank h, dropWhile_isBlank hreverse, List.reverse_reverse]
  exact List.filter_eq_self.mpr hbreak

def IsSchemeChar (c : Char) : Prop :=
  (c.isAlphanum || ['+', '-', '.'].contains c) = true

instance (c : Char) : Decidable (IsSchemeChar c) :=
  inferInstanceAs (Decidable (_ = true))

/-- The scheme is what stands in front of the first colon, in lower case. -/
theorem scheme?_eq_some_iff {scheme : String} {rest : List Char} :
    scheme? text = some (scheme, rest) ↔
      ∃ first name, text = first :: name ++ ':' :: rest ∧ (∀ c ∈ first :: name, IsSchemeChar c) ∧
        first.isAlpha = true ∧ scheme = String.ofList ((first :: name).map Char.toLower) := by
  constructor
  · intro h
    cases hspan : text.span fun c ↦ c.isAlphanum || ['+', '-', '.'].contains c with
    | mk name behind =>
      have htext := Splitting.append_of_span hspan
      have hname := Splitting.forall_mem_of_span hspan
      rw [scheme?, hspan] at h
      dsimp only at h
      split at h
      · next first name rest =>
        split at h
        · next halpha =>
          cases h
          exact ⟨first, name, htext.symm, hname, halpha, rfl⟩
        · cases h
      · cases h
  · rintro ⟨first, name, rfl, hname, halpha, rfl⟩
    rw [scheme?, Splitting.span_cons_of_forall hname rest (by decide)]
    exact if_pos halpha

theorem scheme?_append {scheme : String} {rest : List Char} (h : scheme? text = some (scheme, rest))
    (more : List Char) : scheme? (text ++ more) = some (scheme, rest ++ more) := by
  obtain ⟨first, name, rfl, hname, halpha, hscheme⟩ := scheme?_eq_some_iff.mp h
  refine scheme?_eq_some_iff.mpr ⟨first, name, ?_, hname, halpha, hscheme⟩
  rw [List.append_assoc]
  rfl

/-- The reader stops before a query at the latest: it leaves a query behind the text as it is, and
takes from the text what it takes without one. -/
def StopsAtQuery {α : Type} (read : List Char → Except ParseError (α × List Char))
    (text : List Char) : Prop :=
  ∀ ⦃a : α⦄ ⦃rest : List Char⦄, read text = .ok (a, rest) →
    rest <:+ text ∧ ∀ query, read (text ++ '?' :: query) = .ok (a, rest ++ '?' :: query)

theorem splitAtSign?_append {after : List Char} (h : '@' ∉ after) (before : List Char) :
    splitAtSign? (before ++ '@' :: after) = some (before, after) := by
  have hafter : ∀ c ∈ after.reverse, decide (c ≠ '@') = true := by
    intro c hc
    rw [decide_eq_true_eq]
    rintro rfl
    exact h (List.mem_reverse.mp hc)
  have hspan : (before ++ '@' :: after).reverse.span (· ≠ '@') =
      (after.reverse, '@' :: before.reverse) := by
    rw [List.reverse_append, List.reverse_cons, List.append_assoc]
    exact Splitting.span_cons_of_forall hafter before.reverse (by decide)
  rw [splitAtSign?, if_pos (by simp), hspan]
  simp

theorem splitAtSign?_eq_none (h : '@' ∉ text) : splitAtSign? text = none := by
  rw [splitAtSign?, if_neg (by simpa using h)]

theorem eq_append_of_splitAtSign? {before after : List Char}
    (h : splitAtSign? text = some (before, after)) : text = before ++ '@' :: after := by
  by_cases hmem : '@' ∈ text
  · obtain ⟨as, bs, hreverse, hlast⟩ := List.eq_append_cons_of_mem (List.mem_reverse.mpr hmem)
    have htext : text = bs.reverse ++ '@' :: as.reverse := by
      rw [← List.reverse_reverse text, hreverse]
      simp
    rw [htext, splitAtSign?_append (by simpa using hlast)] at h
    cases h
    exact htext
  · rw [splitAtSign?_eq_none hmem] at h
    cases h

/-- Credentials that are empty need something behind them, so a query is taken for a missing host. -/
theorem stopsAtQuery_readCredentials (h : text ≠ ['@']) :
    StopsAtQuery (readCredentials .other) text := by
  intro credentials rest hread
  cases hspan : text.span fun c ↦ !Family.other.endsAuthority c with
  | mk authority behind =>
    have htext := Splitting.append_of_span hspan
    have hquery (query : List Char) :
        (text ++ '?' :: query).span (fun c ↦ !Family.other.endsAuthority c) =
          (authority, behind ++ '?' :: query) := Splitting.span_append_cons hspan query rfl
    simp only [readCredentials, hspan, hquery] at hread ⊢
    cases hat : splitAtSign? authority with
    | none =>
      rw [hat] at hread
      cases hread
      exact ⟨List.suffix_refl _, fun _ ↦ rfl⟩
    | some parts =>
      obtain ⟨before, after⟩ := parts
      have hauthority := eq_append_of_splitAtSign? hat
      rw [hat] at hread
      dsimp only at hread ⊢
      split at hread
      · cases hread
      next hnone =>
      cases hread
      have hsome : ¬ (before = [] ∧ after = []) := by
        rintro ⟨rfl, rfl⟩
        have hbehind : behind = [] := by simpa using hnone
        rw [hauthority, hbehind] at htext
        exact h htext.symm
      refine ⟨?_, fun query ↦ ?_⟩
      · rw [← htext, hauthority, List.append_assoc]
        exact ⟨before ++ ['@'], by simp⟩
      · rw [if_neg (by simpa using hsome), List.append_assoc]

theorem splitHost_append (family : Family) (bracketed : Bool) (text : List Char) :
    (splitHost family bracketed text).1 ++ (splitHost family bracketed text).2 = text := by
  induction text generalizing bracketed with
  | nil => rfl
  | cons c text ih =>
    rw [splitHost]
    split
    · rfl
    · exact congrArg (c :: ·) (ih _)

theorem splitHost_append_query (family : Family) (bracketed : Bool) (text query : List Char) :
    splitHost family bracketed (text ++ '?' :: query) =
      ((splitHost family bracketed text).1,
        (splitHost family bracketed text).2 ++ '?' :: query) := by
  induction text generalizing bracketed with
  | nil => simp [splitHost, Family.endsAuthority]
  | cons c text ih =>
    rw [List.cons_append, splitHost, splitHost]
    split
    · rfl
    · simp only [ih]

theorem readHost_of_splitHost {name behind : List Char}
    (h : splitHost .other false text = (name, behind)) :
    readHost .other text =
      if name = [] ∧ behind.head? = some ':' then .error .emptyHost
      else (Host.verbatim name).map (·, behind) := by
  simp only [readHost, h, List.isEmpty_iff, reduceCtorEq, false_or]
  split
  · rfl
  · cases Host.verbatim name <;> rfl

theorem stopsAtQuery_readHost (text : List Char) : StopsAtQuery (readHost .other) text := by
  intro host rest hread
  have htext := splitHost_append .other false text
  have hquery := splitHost_append_query .other false text
  cases hsplit : splitHost .other false text with
  | mk name behind =>
    rw [hsplit] at htext hquery
    rw [readHost_of_splitHost hsplit] at hread
    split at hread
    · cases hread
    next hsome =>
    cases hhost : Host.verbatim name with
    | error error =>
      rw [hhost] at hread
      cases hread
    | ok host' =>
      rw [hhost] at hread
      cases hread
      refine ⟨⟨name, htext⟩, fun query ↦ ?_⟩
      rw [readHost_of_splitHost (hquery query), if_neg, hhost]
      · rfl
      rintro ⟨hname, hhead⟩
      cases rest with
      | nil => cases hhead
      | cons c rest => exact hsome ⟨hname, hhead⟩

theorem stopsAtQuery_readPort (port : Nat) (text : List Char) : StopsAtQuery (readPort port) text := by
  induction text generalizing port with
  | nil =>
    intro n rest h
    cases h
    exact ⟨List.suffix_refl _, fun _ ↦ rfl⟩
  | cons c text ih =>
    intro n rest h
    simp only [List.cons_append, readPort] at h ⊢
    split at h
    · next hdigit =>
      split at h
      · cases h
      next hlimit =>
      obtain ⟨hsuffix, hquery⟩ := ih _ h
      refine ⟨hsuffix.trans (List.suffix_cons c text), fun query ↦ ?_⟩
      rw [if_pos hdigit, if_neg hlimit, hquery query]
    · next hdigit =>
      split at h
      · next hend =>
        cases h
        refine ⟨List.suffix_refl _, fun query ↦ ?_⟩
        rw [if_neg hdigit, if_pos hend]
        rfl
      · cases h

theorem readPort?_cons (c : Char) (text : List Char) :
    readPort? (':' :: c :: text) = (readPort 0 (c :: text)).map fun (port, rest) ↦
      (if c.isDigit then some (UInt16.ofNat port) else none, rest) := by
  rw [readPort?]
  split <;> rfl

theorem readPort?_of_head? (h : text.head? ≠ some ':') : readPort? text = .ok (none, text) := by
  unfold readPort?
  split
  · exact absurd rfl h
  · exact absurd rfl h
  · rfl

theorem stopsAtQuery_readPort? (text : List Char) : StopsAtQuery readPort? text := by
  intro port rest h
  by_cases hcolon : text.head? = some ':'
  · obtain ⟨text, rfl⟩ := List.head?_eq_some_iff.mp hcolon
    cases text with
    | nil =>
      cases h
      exact ⟨List.nil_suffix, fun _ ↦ rfl⟩
    | cons c text =>
      rw [readPort?_cons] at h
      cases hport : readPort 0 (c :: text) with
      | error error =>
        rw [hport] at h
        cases h
      | ok read =>
        obtain ⟨n, behind⟩ := read
        rw [hport] at h
        cases h
        obtain ⟨hsuffix, hquery⟩ := stopsAtQuery_readPort 0 (c :: text) hport
        refine ⟨hsuffix.trans (List.suffix_cons ':' (c :: text)), fun query ↦ ?_⟩
        have hread := hquery query
        rw [List.cons_append] at hread
        rw [List.cons_append, List.cons_append, readPort?_cons, hread]
        rfl
  · rw [readPort?_of_head? hcolon] at h
    cases h
    refine ⟨List.suffix_refl _, fun query ↦ readPort?_of_head? ?_⟩
    cases text with
    | nil => simp
    | cons c text => exact hcolon

def IsPath (text : List Char) : Prop :=
  ∀ c ∈ text, c ≠ '?' ∧ c ≠ '#'

theorem IsPath.of_suffix {rest : List Char} (h : IsPath text) (hsuffix : rest <:+ text) : IsPath rest :=
  fun c hc ↦ h c (hsuffix.subset hc)

theorem splitQuery_of_isPath (h : IsPath text) : splitQuery text = (text, none) := by
  have hpath : ∀ c ∈ text, (c ≠ '?' && c ≠ '#') = true := by
    intro c hc
    simpa using h c hc
  rw [splitQuery, Splitting.span_of_forall hpath]

theorem splitQuery_append (h : IsPath text) (hquery : '#' ∉ query) :
    splitQuery (text ++ '?' :: query) = (text, some (String.ofList query)) := by
  have hpath : ∀ c ∈ text, (c ≠ '?' && c ≠ '#') = true := by
    intro c hc
    simpa using h c hc
  have hall : ∀ c ∈ query, decide (c ≠ '#') = true := by
    intro c hc
    rw [decide_eq_true_eq]
    rintro rfl
    exact hquery hc
  rw [splitQuery, Splitting.span_cons_of_forall hpath query (by decide)]
  simp only [List.takeWhile_eq_self_iff.mpr hall]

def ofParts (scheme : String) (credentials : Credentials) (host : Host) (port : Option UInt16)
    (behind : List Char) : Url where
  scheme := scheme
  username := String.ofList credentials.username
  password := if credentials.password.isEmpty then none
    else some (String.ofList credentials.password)
  host := if host.text.isEmpty then none else some (String.ofList host.text)
  port := port
  path := pathOf (splitQuery behind).1
  query := (splitQuery behind).2

theorem withAuthority_of_reads {family : Family} {scheme : String} {credentials : Credentials}
    {host : Host} {port : Option UInt16} {atHost atPort behind : List Char}
    (hcredentials : readCredentials family text = .ok (credentials, atHost))
    (hhost : readHost family atHost = .ok (host, atPort))
    (hport : readPort? atPort = .ok (port, behind)) :
    withAuthority family scheme text =
      if host.text.isEmpty ∧ ¬ credentials.isEmpty then .error .emptyHost
      else .ok (ofParts scheme credentials host port behind) := by
  simp only [withAuthority, hcredentials, hhost, hport, bind, Except.bind]
  split <;> rfl

/-- Between credentials, host and port nothing looks further ahead than to a query. -/
theorem withAuthority_append {scheme : String} {url : Url} (hpath : IsPath text)
    (hlone : text ≠ ['@']) (hquery : '#' ∉ query)
    (h : withAuthority .other scheme text = .ok url) :
    url.query = none ∧
      withAuthority .other scheme (text ++ '?' :: query) =
        .ok { url with query := some (String.ofList query) } := by
  obtain ⟨⟨credentials, atHost⟩, hcredentials, hrest⟩ := bind_eq_ok.mp h
  obtain ⟨⟨host, atPort⟩, hhost, hrest⟩ := bind_eq_ok.mp hrest
  obtain ⟨⟨port, behind⟩, hport, -⟩ := bind_eq_ok.mp hrest
  obtain ⟨hsuffix₁, hcredentials'⟩ := stopsAtQuery_readCredentials hlone hcredentials
  obtain ⟨hsuffix₂, hhost'⟩ := stopsAtQuery_readHost _ hhost
  obtain ⟨hsuffix₃, hport'⟩ := stopsAtQuery_readPort? _ hport
  have hbehind : IsPath behind := hpath.of_suffix ((hsuffix₃.trans hsuffix₂).trans hsuffix₁)
  rw [withAuthority_of_reads hcredentials hhost hport] at h
  rw [withAuthority_of_reads (hcredentials' query) (hhost' query) (hport' query)]
  split at h
  · cases h
  next hsome =>
  cases h
  rw [if_neg hsome, ofParts, ofParts, splitQuery_of_isPath hbehind, splitQuery_append hbehind hquery]
  exact ⟨rfl, rfl⟩

theorem withoutAuthority_append (scheme : String) (hpath : IsPath text) (hquery : '#' ∉ query) :
    (withoutAuthority scheme text).query = none ∧
      withoutAuthority scheme (text ++ '?' :: query) =
        { withoutAuthority scheme text with query := some (String.ofList query) } := by
  rw [withoutAuthority, withoutAuthority, splitQuery_of_isPath hpath, splitQuery_append hpath hquery]
  exact ⟨rfl, rfl⟩

theorem scheme_of_withAuthority {family : Family} {scheme : String} {url : Url}
    (h : withAuthority family scheme text = .ok url) : url.scheme = scheme := by
  obtain ⟨⟨credentials, atHost⟩, hcredentials, hrest⟩ := bind_eq_ok.mp h
  obtain ⟨⟨host, atPort⟩, hhost, hrest⟩ := bind_eq_ok.mp hrest
  obtain ⟨⟨port, behind⟩, hport, -⟩ := bind_eq_ok.mp hrest
  rw [withAuthority_of_reads hcredentials hhost hport] at h
  split at h
  · cases h
  · cases h
    rfl

theorem scheme_of_ofFile {scheme : String} {url : Url} (h : ofFile scheme text = .ok url) :
    url.scheme = scheme := by
  unfold ofFile at h
  split at h
  · split at h
    · dsimp only at h
      split at h
      · obtain ⟨-, -, h⟩ := bind_eq_ok.mp h
        cases h
        rfl
      · cases h
        rfl
    · cases h
      rfl
  · cases h
    rfl

theorem scheme?_of_parse {text : String} {url : Url} (h : parse text = .ok url) :
    ∃ rest, scheme? (clean text.toList) = some (url.scheme, rest) := by
  unfold parse at h
  split at h
  · cases h
  next scheme rest hscheme =>
  refine ⟨rest, ?_⟩
  have hurl : url.scheme = scheme := by
    split at h
    · exact scheme_of_ofFile h
    · exact scheme_of_withAuthority h
    · split at h
      · exact scheme_of_withAuthority h
      · cases h
        rfl
  rw [hurl, hscheme]

theorem parse_of_slashes {text : String} {scheme : String} {rest : List Char}
    (hscheme : scheme? (clean text.toList) = some (scheme, '/' :: '/' :: rest))
    (hfamily : Family.ofScheme scheme = .other) :
    parse text = withAuthority .other scheme rest := by
  simp only [parse, hscheme, hfamily]

theorem parse_of_not_slashes {text : String} {scheme : String} {rest : List Char}
    (hscheme : scheme? (clean text.toList) = some (scheme, rest))
    (hfamily : Family.ofScheme scheme = .other) (hrest : ¬ ['/', '/'] <+: rest) :
    parse text = .ok (withoutAuthority scheme rest) := by
  simp only [parse, hscheme, hfamily]
  split
  · next authority => exact absurd ⟨authority, rfl⟩ hrest
  · rfl

theorem not_slashes_append_query {rest : List Char} (h : ¬ ['/', '/'] <+: rest)
    (query : List Char) : ¬ ['/', '/'] <+: rest ++ '?' :: query := by
  match rest with
  | [] => simp [List.cons_prefix_cons]
  | [a] => simp [List.cons_prefix_cons]
  | a :: b :: rest => simpa [List.cons_prefix_cons] using h

theorem scheme?_clean_append {text scheme : String} {rest : List Char}
    (hblank : ∀ c ∈ text.toList, 0x20 < c.toNat) (hquery : ∀ c ∈ query, 0x20 < c.toNat ∧ c ≠ '#')
    (h : scheme? (clean text.toList) = some (scheme, rest)) :
    scheme? (clean (text ++ "?" ++ String.ofList query).toList) =
      some (scheme, rest ++ '?' :: query) := by
  have htext : (text ++ "?" ++ String.ofList query).toList = text.toList ++ '?' :: query := by simp
  have hall : ∀ c ∈ text.toList ++ '?' :: query, 0x20 < c.toNat := by
    intro c hc
    rw [List.mem_append, List.mem_cons] at hc
    obtain hc | rfl | hc := hc
    · exact hblank c hc
    · decide
    · exact (hquery c hc).1
  rw [clean_eq_self hblank] at h
  rw [htext, clean_eq_self hall]
  exact scheme?_append h _

/-- A query behind a URL is read as the query, and the rest of the URL as it is without one. The text
must not end in an at sign that is all there is of the authority. -/
theorem parse_append_query {text : String} {url : Url} (hpath : IsPath text.toList)
    (hblank : ∀ c ∈ text.toList, 0x20 < c.toNat) (hquery : ∀ c ∈ query, 0x20 < c.toNat ∧ c ≠ '#')
    (hfamily : Family.ofScheme url.scheme = .other)
    (hlone : text.toList.map Char.toLower ≠ url.scheme.toList ++ "://@".toList)
    (h : parse text = .ok url) :
    url.query = none ∧
      parse (text ++ "?" ++ String.ofList query) =
        .ok { url with query := some (String.ofList query) } := by
  obtain ⟨rest, hscheme⟩ := scheme?_of_parse h
  have hscheme' := scheme?_clean_append hblank hquery hscheme
  have hsharp : '#' ∉ query := fun hmem ↦ (hquery '#' hmem).2 rfl
  obtain ⟨first, name, hsplit, -, -, hname⟩ :=
    scheme?_eq_some_iff.mp (clean_eq_self hblank ▸ hscheme)
  have hrest : IsPath rest := hpath.of_suffix ⟨first :: name ++ [':'], by simp [hsplit]⟩
  by_cases hslashes : ['/', '/'] <+: rest
  · obtain ⟨authority, rfl⟩ := hslashes
    have hauthority : authority ≠ ['@'] := by
      rintro rfl
      apply hlone
      rw [hsplit, hname]
      simp
    have hsuffix : IsPath authority := hrest.of_suffix ⟨['/', '/'], rfl⟩
    rw [parse_of_slashes hscheme hfamily] at h
    obtain ⟨hnone, happend⟩ := withAuthority_append hsuffix hauthority hsharp h
    exact ⟨hnone, (parse_of_slashes hscheme' hfamily).trans happend⟩
  · rw [parse_of_not_slashes hscheme hfamily hslashes] at h
    obtain ⟨hnone, happend⟩ := withoutAuthority_append url.scheme hrest hsharp
    have hurl : withoutAuthority url.scheme rest = url := Except.ok.inj h
    rw [parse_of_not_slashes hscheme' hfamily (not_slashes_append_query hslashes query), happend]
    rw [hurl] at hnone ⊢
    exact ⟨hnone, rfl⟩

end SqlClient.Url
