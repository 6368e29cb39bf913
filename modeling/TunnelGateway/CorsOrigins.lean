import TunnelGateway.Cors

/-!
Which origins the CORS filter admits. The filter tests texts, by equality and by
suffix; an entry of the schema and an origin of a request are read back from
their texts, so the test becomes one on schemes, labels and ports. The wildcard
that stands for every host of a site is the one pattern the test does not know.
-/
namespace TunnelGateway.Cors

open GoText ProxyConfig Matcher RouteSpec RouteConversion RequestFilters

section Texts

open SeparatedText SuffixPattern

variable {labels : List (List Char)} {port port' : Option (List Char)}

variable {c d : Char} {host : Pattern (List Char)}

theorem ne_of_isLabelChar (h : isLabelChar c = true) (hd : isLabelChar d = false) : c ≠ d := by
  rintro rfl
  rw [h] at hd
  exact Bool.noConfusion hd

theorem Labels.isLabelChar (h : Labels labels) {label : List Char} (hlabel : label ∈ labels)
    (hc : c ∈ label) : Cors.isLabelChar c = true :=
  List.all_eq_true.mp (h label hlabel).2 c hc

theorem Labels.words (h : Labels labels) : Words '.' labels := by
  intro label hlabel
  refine ⟨?_, (h label hlabel).1⟩
  intro hdot
  exact ne_of_isLabelChar (h.isLabelChar hlabel hdot) (by decide) rfl

/-- Every character of a dotted name is a dot or stands in a label. -/
theorem mem_dotted (h : c ∈ dotted labels) : c = '.' ∨ ∃ label ∈ labels, c ∈ label := by
  induction labels with
  | nil => simp [dotted] at h
  | cons label rest ih =>
    by_cases hrest : rest = []
    · subst hrest
      exact Or.inr ⟨label, List.mem_cons_self, by simpa [dotted] using h⟩
    · rw [dotted, List.intercalate_cons_of_ne_nil hrest, List.mem_append, List.mem_append] at h
      rcases h with (h | h) | h
      · exact Or.inr ⟨label, List.mem_cons_self, h⟩
      · exact Or.inl (List.mem_singleton.mp h)
      · rcases ih h with hdot | ⟨other, hmem, hc⟩
        · exact Or.inl hdot
        · exact Or.inr ⟨other, List.mem_cons_of_mem _ hmem, hc⟩

theorem notMem_dotted (h : Labels labels) (hdot : c ≠ '.') (hc : isLabelChar c = false) :
    c ∉ dotted labels := by
  intro hmem
  rcases mem_dotted hmem with hmem | ⟨label, hlabel, hin⟩
  · exact hdot hmem
  · exact ne_of_isLabelChar (h.isLabelChar hlabel hin) hc rfl

theorem dotted_ne_nil (hne : labels ≠ []) (h : Labels labels) : dotted labels ≠ [] := by
  intro hnil
  exact hne (eq_nil_of_intercalate_eq_nil h.words hnil)

theorem notMem_port {p : List Char} (h : Digits (some p)) (hc : c.isDigit = false) : c ∉ p := by
  intro hmem
  rw [List.all_eq_true.mp (h p rfl) c hmem] at hc
  exact Bool.noConfusion hc

/-- Host and port are read back from their text. -/
theorem host_portText_inj {host host' : List Char} (hhost : ':' ∉ host) (hhost' : ':' ∉ host')
    (h : host ++ portText port = host' ++ portText port') : host = host' ∧ port = port' := by
  have hmiss : ∀ {a b p : List Char}, ':' ∉ a → a ≠ b ++ ':' :: p := by
    intro a b p ha heq
    exact ha (heq ▸ by simp)
  cases port with
  | none =>
    cases port' with
    | none => simpa using h
    | some p' => exact absurd (by simpa [portText] using h) (hmiss hhost)
  | some p =>
    cases port' with
    | none => exact absurd (by simpa [portText] using h.symm) (hmiss hhost')
    | some p' =>
      obtain ⟨hhosts, hports⟩ := append_cons_inj hhost hhost' h
      exact ⟨hhosts, congrArg some hports⟩

/-- A domain and its port end a host and its port exactly when the ports are one and the
domain ends the host. -/
theorem domain_isSuffix_iff {domain host : List Char} (hdomain : ':' ∉ domain) (hhost : ':' ∉ host)
    (hport : Digits port) (hport' : Digits port') :
    '.' :: (domain ++ portText port) <:+ host ++ portText port' ↔
      port = port' ∧ '.' :: domain <:+ host := by
  constructor
  · rintro ⟨front, hfront⟩
    cases port' with
    | none =>
      cases port with
      | none => exact ⟨rfl, front, by simpa [portText] using hfront⟩
      | some p =>
        have hcolon : ':' ∈ host := by
          rw [portText, portText, List.append_nil] at hfront
          rw [← hfront]
          simp
        exact absurd hcolon hhost
    | some p' =>
      have hfree : ':' ∉ p' := notMem_port hport' (by decide)
      cases port with
      | none =>
        -- The colon lies before the domain, so the domain's dot would lie in the port.
        rw [portText, portText, List.append_nil] at hfront
        have hcolon : ':' ∈ front := by
          have hall : ':' ∈ front ++ '.' :: domain := by
            rw [hfront]
            simp
          simpa [hdomain] using hall
        obtain ⟨before, after, rfl⟩ := List.append_of_mem hcolon
        have hsplit : before ++ ':' :: (after ++ '.' :: domain) = host ++ ':' :: p' := by
          simpa using hfront
        have hafter := (append_cons_inj_of_notMem hhost hfree hsplit).2
        exact absurd (hafter ▸ by simp) (notMem_port (c := '.') hport' (by decide))
      | some p =>
        have hsplit : (front ++ '.' :: domain) ++ ':' :: p = host ++ ':' :: p' := by
          simpa [portText] using hfront
        obtain ⟨hhosts, hports⟩ := append_cons_inj_of_notMem hhost hfree hsplit
        exact ⟨congrArg some hports, front, hhosts⟩
  · rintro ⟨rfl, front, rfl⟩
    exact ⟨front, by simp⟩

theorem splitOrigin_siteText {scheme host : List Char} (hscheme : scheme ≠ [])
    (hplain : ':' ∉ scheme) (hhost : host ≠ []) :
    splitOrigin (siteText scheme host port) =
      some (String.ofList scheme, String.ofList (host ++ portText port)) := by
  have hcut : cut (siteText scheme host port) "://" =
      some (String.ofList scheme, String.ofList (host ++ portText port)) := by
    have htext : (siteText scheme host port).toList =
        scheme ++ "://".toList ++ (host ++ portText port) := String.toList_ofList
    have hcutIn := cutIn_append ['/', '/'] scheme (host ++ portText port) hplain
    rw [cut, htext]
    exact congrArg (Option.map _) hcutIn
  simp [splitOrigin, hcut, hscheme, hhost]

theorem colon_notMem_hostText (h : HostPattern host) : ':' ∉ hostText host := by
  cases host with
  | exact labels => exact notMem_dotted h.2 (by decide) (by decide)
  | under labels =>
    intro hmem
    rcases mem_dotted hmem with hdot | ⟨label, hlabel, hin⟩
    · exact absurd hdot (by decide)
    · rcases List.mem_cons.mp hlabel with rfl | hlabel
      · exact absurd hin (by decide)
      · exact ne_of_isLabelChar (Labels.isLabelChar h hlabel hin) (by decide) rfl

theorem hostText_ne_nil (h : HostPattern host) : hostText host ≠ [] := by
  cases host with
  | exact labels => exact dotted_ne_nil h.1 h.2
  | under labels => cases labels <;> simp [hostText, dotted]

theorem hostText_under_cons (label : List Char) (rest : List (List Char)) :
    hostText (.under (label :: rest)) = '*' :: '.' :: dotted (label :: rest) := by
  simp [hostText, dotted]

theorem hostText_eq_wildcard_iff (h : HostPattern host) :
    hostText host = ['*'] ↔ host = .under [] := by
  constructor
  · intro htext
    cases host with
    | exact labels =>
      have hstar := notMem_dotted (c := '*') h.2 (by decide) (by decide)
      rw [hostText] at htext
      rw [htext] at hstar
      exact absurd (List.mem_singleton.mpr rfl) hstar
    | under labels =>
      cases labels with
      | nil => rfl
      | cons label rest =>
        rw [hostText_under_cons] at htext
        simp at htext
  · rintro rfl
    rfl

/-- The two ways a host passes, on the texts as lists. -/
theorem hostMatchesPattern_ofList (host pattern : List Char) :
    hostMatchesPattern (String.ofList host) (String.ofList pattern) = true ↔
      pattern = host ∨ ∃ domain, pattern = '*' :: '.' :: domain ∧ '.' :: domain <:+ host ∧
        host ≠ '.' :: domain := by
  have hwild : hasPrefix (String.ofList pattern) "*." = true ↔
      ∃ domain, pattern = '*' :: '.' :: domain := by
    have htext : (String.ofList pattern).toList = pattern := String.toList_ofList
    rw [hasPrefix_iff, htext]
    exact ⟨fun ⟨domain, h⟩ => ⟨domain, h.symm⟩, fun ⟨domain, h⟩ => ⟨domain, h.symm⟩⟩
  have hequal : String.ofList pattern = String.ofList host ↔ pattern = host := by
    rw [← String.toList_inj, String.toList_ofList, String.toList_ofList]
  by_cases heq : pattern = host
  · simp [hostMatchesPattern, heq]
  · by_cases hpre : hasPrefix (String.ofList pattern) "*." = true
    · obtain ⟨domain, rfl⟩ := hwild.mp hpre
      have hslice : sliceFrom (String.ofList ('*' :: '.' :: domain)) 1 =
          String.ofList ('.' :: domain) := by
        rw [sliceFrom, String.toList_ofList, List.drop_succ_cons, List.drop_zero]
      rw [hostMatchesPattern, if_neg (mt hequal.mp heq), hpre, hslice]
      simp only [Bool.not_true, Bool.false_eq_true, if_false, Bool.and_eq_true, hasSuffix_iff,
        decide_eq_true_eq, String.toList_ofList, heq, false_or]
      constructor
      · rintro ⟨hsuffix, hlen⟩
        refine ⟨domain, rfl, hsuffix, ?_⟩
        rintro rfl
        exact lt_irrefl _ hlen
      · rintro ⟨other, hother, hsuffix, hproper⟩
        cases hother
        refine ⟨hsuffix, (len_lt_iff_ne_of_suffix (by simpa using hsuffix)).mpr ?_⟩
        intro hsame
        exact hproper (String.ofList_injective hsame).symm
    · have hnot : ¬ ∃ domain, pattern = '*' :: '.' :: domain := mt hwild.mpr hpre
      rw [hostMatchesPattern, if_neg (mt hequal.mp heq), if_pos (by simpa using hpre)]
      simp only [Bool.false_eq_true, heq, false_or, false_iff]
      rintro ⟨domain, hdomain, -⟩
      exact hnot ⟨domain, hdomain⟩

/-- A host begins with a character of a label. -/
theorem dotted_append_ne_cons (hne : labels ≠ []) (h : Labels labels) (hd : isLabelChar d = false)
    (rest rest' : List Char) : dotted labels ++ rest ≠ d :: rest' := by
  cases labels with
  | nil => exact absurd rfl hne
  | cons label others =>
    cases label with
    | nil => exact absurd rfl (h [] List.mem_cons_self).1
    | cons c tail =>
      have hc : c ≠ d :=
        ne_of_isLabelChar (h.isLabelChar List.mem_cons_self List.mem_cons_self) hd
      cases others <;> simp [dotted, hc]

theorem hostText_under_ne_dotted (h : Labels labels) (domain : List (List Char)) :
    hostText (.under domain) ≠ dotted labels := by
  intro heq
  refine notMem_dotted (c := '*') h (by decide) (by decide) ?_
  rw [← heq]
  cases domain <;> simp [hostText, dotted]

/-- The texts of two hosts with ports are equal only if the hosts and the ports are. -/
theorem hostText_portText_inj_iff (hhost : HostPattern host) (hlabels : Labels labels) :
    hostText host ++ portText port = dotted labels ++ portText port' ↔
      hostText host = dotted labels ∧ port = port' := by
  constructor
  · exact host_portText_inj (colon_notMem_hostText hhost)
      (notMem_dotted hlabels (by decide) (by decide))
  · rintro ⟨hhosts, rfl⟩
    rw [hhosts]

/-- The host test of the filter knows every pattern but the wildcard alone. -/
theorem hostMatchesPattern_iff (hhost : HostPattern host) (hne : labels ≠ [])
    (hlabels : Labels labels) (hport : Digits port) (hport' : Digits port') :
    hostMatchesPattern (String.ofList (dotted labels ++ portText port'))
        (String.ofList (hostText host ++ portText port)) = true ↔
      port = port' ∧ host.Matches labels ∧ host ≠ .under [] := by
  rw [hostMatchesPattern_ofList, hostText_portText_inj_iff hhost hlabels]
  cases host with
  | exact inner =>
    have hdotted : dotted inner = dotted labels ↔ labels = inner := by
      constructor
      · exact fun h => (intercalate_inj hhost.2.words hlabels.words h).symm
      · exact fun h => congrArg dotted h.symm
    have hnowild : ∀ domain, dotted inner ++ portText port ≠ '*' :: '.' :: domain := fun domain =>
      dotted_append_ne_cons hhost.1 hhost.2 (by decide) (portText port) ('.' :: domain)
    simp only [hostText, hdotted]
    constructor
    · rintro (⟨rfl, rfl⟩ | ⟨domain, heq, -⟩)
      · exact ⟨rfl, rfl, by simp⟩
      · exact absurd heq (hnowild domain)
    · rintro ⟨rfl, rfl, -⟩
      exact Or.inl ⟨rfl, rfl⟩
  | under inner =>
    have hnotequal := hostText_under_ne_dotted hlabels inner
    cases inner with
    | nil =>
      have hnodot : ∀ domain, hostText (.under []) ++ portText port ≠ '*' :: '.' :: domain := by
        intro domain
        cases port <;> simp [hostText, dotted, portText]
      simp [hnotequal, hnodot]
    | cons label rest =>
      have hdomain := domain_isSuffix_iff (notMem_dotted hhost (by decide) (by decide))
        (notMem_dotted hlabels (by decide) (by decide)) hport hport'
      have hwords : '.' :: dotted (label :: rest) <:+ dotted labels ↔ _ :=
        cons_isSuffix_intercalate_iff hhost.words (List.cons_ne_nil _ _) hlabels.words hne
      have hproper := dotted_append_ne_cons (d := '.') hne hlabels (by decide) (portText port')
      rw [hostText_under_cons] at hnotequal ⊢
      simp only [hnotequal, false_and, false_or, List.cons_append, List.cons.injEq, true_and,
        ne_eq, Pattern.under.injEq, reduceCtorEq, not_false_eq_true, and_true,
        exists_eq_left']
      rw [hdomain, hwords]
      exact ⟨fun h => h.1, fun h => ⟨h, hproper _⟩⟩

end Texts

section Admission

open SuffixPattern

variable (o : Origin) (p : OriginPattern)

/-- An entry of the allowed origins admits an origin. -/
def Admits (entry : String) (o : Origin) : Prop :=
  entry = "*" ∨ entry = o.text ∨
    ∃ p : OriginPattern, entry = p.text ∧ p.scheme = o.scheme ∧ p.port = o.port ∧
      p.host.Matches o.labels

theorem OriginPattern.scheme_ne : p.scheme ≠ [] := by
  rcases p.scheme_ok with h | h <;> simp [h]

theorem OriginPattern.scheme_plain : ':' ∉ p.scheme := by
  rcases p.scheme_ok with h | h <;> simp [h]

theorem OriginPattern.splitOrigin_text : splitOrigin p.text =
    some (String.ofList p.scheme, String.ofList (hostText p.host ++ portText p.port)) :=
  splitOrigin_siteText p.scheme_ne p.scheme_plain (hostText_ne_nil p.host_ok)

theorem Origin.splitOrigin_text : splitOrigin o.text =
    some (String.ofList o.scheme, String.ofList (dotted o.labels ++ portText o.port)) :=
  splitOrigin_siteText o.scheme_ne o.scheme_plain (dotted_ne_nil o.labels_ne o.labels_ok)

theorem Origin.splitOrigin_anyHost : splitOrigin o.anyHost =
    some (String.ofList o.scheme, String.ofList (['*'] ++ portText o.port)) :=
  splitOrigin_siteText o.scheme_ne o.scheme_plain (by simp)

/-- The test of one entry, on the parts of the entry and of the origin. -/
theorem originMatchesPattern_iff : originMatchesPattern o.text p.text = true ↔
    p.scheme = o.scheme ∧ p.port = o.port ∧ p.host.Matches o.labels ∧ p.host ≠ .under [] := by
  have hhost := hostMatchesPattern_iff p.host_ok o.labels_ne o.labels_ok p.port_ok o.port_ok
  by_cases hsame : p.text = o.text
  · have hsplit := p.splitOrigin_text
    rw [hsame, o.splitOrigin_text, Option.some.injEq, Prod.mk.injEq] at hsplit
    rw [hsplit.2, hostMatchesPattern, if_pos rfl] at hhost
    have hscheme : p.scheme = o.scheme := (String.ofList_injective hsplit.1).symm
    rw [originMatchesPattern, if_pos hsame]
    exact hhost.trans (by simp [hscheme])
  · simp only [originMatchesPattern, if_neg hsame, o.splitOrigin_text, p.splitOrigin_text]
    by_cases hscheme : p.scheme = o.scheme
    · rw [if_neg (by simp [hscheme]), hhost]
      simp [hscheme]
    · have hne : String.ofList o.scheme ≠ String.ofList p.scheme := by
        intro h
        exact hscheme (String.ofList_injective h).symm
      simp [hne, hscheme]

/-- A pattern reads like the wildcard for the site of an origin only if it is that. -/
theorem text_eq_anyHost_iff :
    p.text = o.anyHost ↔ p.scheme = o.scheme ∧ p.port = o.port ∧ p.host = .under [] := by
  constructor
  · intro heq
    have hsplit := p.splitOrigin_text
    rw [heq, o.splitOrigin_anyHost, Option.some.injEq, Prod.mk.injEq] at hsplit
    obtain ⟨hhost, hport⟩ := host_portText_inj (by decide) (colon_notMem_hostText p.host_ok)
      (String.ofList_injective hsplit.2)
    exact ⟨(String.ofList_injective hsplit.1).symm, hport.symm,
      (hostText_eq_wildcard_iff p.host_ok).mp hhost.symm⟩
  · rintro ⟨hscheme, hport, hhost⟩
    rw [OriginPattern.text, Origin.anyHost, hscheme, hport,
      (hostText_eq_wildcard_iff p.host_ok).mpr hhost]

theorem originMatchesPattern_self (origin : String) :
    originMatchesPattern origin origin = true := by
  rw [originMatchesPattern, if_pos rfl]

theorem siteText_ne {text : String} (h : ':' ∉ text.toList) (scheme host : List Char)
    (port : Option (List Char)) : siteText scheme host port ≠ text := by
  rintro rfl
  rw [siteText] at h
  simp at h

/-- One entry of the allowed origins, as the filter's loop tests it. -/
theorem entry_allows_iff {entry : String} (hentry : CORSOrigin entry) :
    (entry = corsWildcard ∨ originMatchesPattern o.text entry = true) ↔
      entry ≠ o.anyHost ∧ Admits entry o := by
  rcases hentry.1 with rfl | ⟨p, rfl⟩
  · constructor
    · exact fun _ => ⟨(siteText_ne (by decide) _ _ _).symm, Or.inl rfl⟩
    · exact fun _ => Or.inl rfl
  · have hwild : p.text ≠ "*" := siteText_ne (by decide) _ _ _
    constructor
    · rintro (h | h)
      · exact absurd h hwild
      · obtain ⟨hscheme, hport, hmatches, hhost⟩ := (originMatchesPattern_iff o p).mp h
        refine ⟨?_, Or.inr (Or.inr ⟨p, rfl, hscheme, hport, hmatches⟩)⟩
        intro heq
        exact hhost ((text_eq_anyHost_iff o p).mp heq).2.2
    · rintro ⟨hne, h | h | ⟨q, hq, hscheme, hport, hmatches⟩⟩
      · exact absurd h hwild
      · rw [h]
        exact Or.inr (originMatchesPattern_self _)
      · rw [hq] at hne ⊢
        have hhost : q.host ≠ .under [] := by
          intro heq
          exact hne ((text_eq_anyHost_iff o q).mpr ⟨hscheme, hport, heq⟩)
        exact Or.inr ((originMatchesPattern_iff o q).mpr ⟨hscheme, hport, hmatches, hhost⟩)

/-- The filter allows an origin exactly when an entry other than the wildcard for its site
admits it. -/
theorem originAllowed_iff {entries : List String} (hentries : ∀ entry ∈ entries, CORSOrigin entry) :
    originAllowed o.text entries = true ↔ ∃ entry ∈ entries, entry ≠ o.anyHost ∧ Admits entry o := by
  have hempty : o.text ≠ "" := siteText_ne (by decide) _ _ _
  have hwild : o.text ≠ corsWildcard := siteText_ne (by decide) _ _ _
  cases entries with
  | nil => simp [originAllowed]
  | cons first rest =>
    rw [originAllowed, if_neg (by simp [hempty, hwild]), List.any_eq_true]
    constructor
    · rintro ⟨entry, hmem, hallowed⟩
      refine ⟨entry, hmem, (entry_allows_iff o (hentries entry hmem)).mp ?_⟩
      simpa using hallowed
    · rintro ⟨entry, hmem, hadmits⟩
      refine ⟨entry, hmem, ?_⟩
      simpa using (entry_allows_iff o (hentries entry hmem)).mpr hadmits

/-- The wildcard for a site admits every origin of it. -/
theorem admits_anyHost (h : CORSOrigin o.anyHost) : Admits o.anyHost o := by
  rcases h.1 with hwild | ⟨p, hp⟩
  · exact absurd hwild (siteText_ne (by decide) _ _ _)
  · obtain ⟨hscheme, hport, hhost⟩ := (text_eq_anyHost_iff o p).mp hp.symm
    refine Or.inr (Or.inr ⟨p, hp, hscheme, hport, ?_⟩)
    rw [hhost]
    exact ⟨List.nil_suffix, o.labels_ne⟩

end Admission

section AllowedOrigins

open SuffixPattern

/-- The response names the request's origin where an entry admits it, and is left as it
was otherwise. -/
def AnswersOrigin (cfg : CORSConfig) (entries : List String) (o : Origin) (req : ProxyRequest) :
    Prop :=
  ∀ backend,
    ((∃ entry ∈ entries, Admits entry o) →
      (filteredHeader cfg req backend).values headerAccessControlAllowOrigin = [o.text]) ∧
    ((¬ ∃ entry ∈ entries, Admits entry o) →
      (filteredHeader cfg req backend).values headerAccessControlAllowOrigin =
        (upstreamHeader req backend).values headerAccessControlAllowOrigin)

/-- The filter answers an origin as the allowed origins say exactly when the wildcard for
the whole site, if it is among them, is not needed. -/
theorem answers_origin_iff (filter : HTTPCORSFilter) (hadmitted : Admitted filter)
    (cfg : CORSConfig) (hcfg : (convertCORSFilter (some filter)).bind RouteFilter.cors = some cfg)
    (o : Origin) (req : ProxyRequest) (horigin : req.header.get headerOrigin = o.text) :
    AnswersOrigin cfg filter.allowOrigins o req ↔
      (o.anyHost ∈ filter.allowOrigins →
        ∃ entry ∈ filter.allowOrigins, entry ≠ o.anyHost ∧ Admits entry o) := by
  have hentries : cfg.allowOrigins = filter.allowOrigins := by
    cases hcfg
    rfl
  have hallowed := originAllowed_iff o hadmitted.origins
  have hvalues : ∀ backend, (filteredHeader cfg req backend).values headerAccessControlAllowOrigin =
      if originAllowed o.text filter.allowOrigins then [o.text]
      else (upstreamHeader req backend).values headerAccessControlAllowOrigin := by
    intro backend
    rw [values_allowOrigin, horigin, hentries]
  constructor
  · intro hanswers hany
    have hset := (hanswers noHeader).1 ⟨_, hany, admits_anyHost o (hadmitted.origins _ hany)⟩
    apply hallowed.mp
    by_contra hnot
    rw [hvalues, if_neg hnot, upstreamHeader, ite_self] at hset
    exact absurd hset (by simp [noHeader, Header.values])
  · intro hneeded backend
    rw [hvalues]
    constructor
    · rintro ⟨entry, hmem, hadmits⟩
      apply if_pos
      apply hallowed.mpr
      by_cases hany : entry = o.anyHost
      · exact hneeded (hany ▸ hmem)
      · exact ⟨entry, hmem, hany, hadmits⟩
    · intro hnone
      apply if_neg
      intro hyes
      obtain ⟨entry, hmem, -, hadmits⟩ := hallowed.mp hyes
      exact hnone ⟨entry, hmem, hadmits⟩

def originFilter (entry : String) : HTTPCORSFilter := { allowOrigins := [entry], maxAge := 5 }

def originConfig (entry : String) : CORSConfig := { allowOrigins := [entry], maxAge := 5 }

theorem admitted_originFilter (entry : String) (h : CORSOrigin entry) :
    Admitted (originFilter entry) := by
  constructor <;> simp [originFilter, LoneWildcard, h]

theorem subdomain_answered : ∃ o : Origin, o.text = "https://x.y.bar.com" ∧
    Admitted (originFilter "https://*.bar.com") ∧ Admits "https://*.bar.com" o ∧
    AnswersOrigin (originConfig "https://*.bar.com") ["https://*.bar.com"] o
      (originRequest "https://x.y.bar.com") := by
  let o : Origin := ⟨"https".toList, ["x".toList, "y".toList, "bar".toList, "com".toList], none,
    by simp, by simp, by simp, by simp [Labels]; decide, by simp [Digits]⟩
  let p : OriginPattern := ⟨"https".toList, .under ["bar".toList, "com".toList], none,
    by simp, by simp [HostPattern, Labels]; decide, by simp [Digits], by simp⟩
  have hp : "https://*.bar.com" = p.text := by decide +kernel
  have ho : o.text = "https://x.y.bar.com" := by decide +kernel
  have hadmitted := admitted_originFilter "https://*.bar.com"
    ⟨Or.inr ⟨p, hp⟩, by decide, by decide⟩
  have hadmits : Admits "https://*.bar.com" o := by
    refine Or.inr (Or.inr ⟨p, hp, rfl, rfl, ?_⟩)
    decide
  refine ⟨o, ho, hadmitted, hadmits, ?_⟩
  exact (answers_origin_iff (originFilter "https://*.bar.com") hadmitted _ rfl o
    (originRequest "https://x.y.bar.com") (by rw [ho]; decide +kernel)).mpr
      fun _ => ⟨_, List.mem_singleton.mpr rfl, by decide +kernel, hadmits⟩

/-- The wildcard for the whole site is in the list and the origin is turned away. -/
theorem any_host_not_answered : ∃ o : Origin, o.text = "https://bar.com" ∧
    Admitted (originFilter "https://*") ∧ Admits "https://*" o ∧
    (filteredHeader (originConfig "https://*") (originRequest "https://bar.com") noHeader).values
      headerAccessControlAllowOrigin = [] := by
  let o : Origin := ⟨"https".toList, ["bar".toList, "com".toList], none,
    by simp, by simp, by simp, by simp [Labels]; decide, by simp [Digits]⟩
  let p : OriginPattern := ⟨"https".toList, .under [], none,
    by simp, by simp [HostPattern, Labels], by simp [Digits], by simp⟩
  have hp : "https://*" = p.text := by decide +kernel
  have hadmitted := admitted_originFilter "https://*"
    ⟨Or.inr ⟨p, hp⟩, by decide, by decide⟩
  refine ⟨o, by decide +kernel, hadmitted, ?_, by decide +kernel⟩
  refine Or.inr (Or.inr ⟨p, hp, rfl, rfl, ?_⟩)
  decide

end AllowedOrigins

end TunnelGateway.Cors
