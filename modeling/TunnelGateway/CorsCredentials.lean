import TunnelGateway.Cors

/-!
Wildcards and credentials in CORS responses. Each list header the filter writes
is either joined from configured names, whose elements are those names, or taken
from the request as it stands.
-/
namespace TunnelGateway.Cors

open GoText ProxyConfig Matcher RouteSpec RouteConversion RequestFilters

section Credentials

open SeparatedText

def isOWS (c : Char) : Bool := c = ' ' || c = '\t'

/-- No element of a comma-separated value is the wildcard. -/
def StarFree (value : String) : Prop := ['*'] ∉ listElements ',' isOWS value.toList

instance (value : String) : Decidable (StarFree value) :=
  inferInstanceAs (Decidable (['*'] ∉ listElements ',' isOWS value.toList))

theorem starFree_empty : StarFree "" := by decide

/-- A name that is one element of a list. -/
def PlainName (name : String) : Prop := ∀ c ∈ name.toList, c ≠ ',' ∧ isOWS c = false

theorem plainName_of_headerName {name : String} (h : HeaderName name) : PlainName name := by
  intro c hc
  have hchar : isHeaderNameChar c = true := List.all_eq_true.mp h.1 c hc
  have hne : ∀ d, isHeaderNameChar d = false → c ≠ d := by
    rintro d hd rfl
    rw [hchar] at hd
    exact Bool.noConfusion hd
  refine ⟨hne ',' (by decide), ?_⟩
  simp [isOWS, hne ' ' (by decide), hne '\t' (by decide)]

theorem plainName_of_method {method : String} (h : method ∈ httpMethodsWithWildcard) :
    PlainName method := by
  apply plainName_of_headerName
  have hall : httpMethodsWithWildcard.all fun m =>
      m.toList.all isHeaderNameChar && decide (1 ≤ m.length) && decide (m.length ≤ 256) := by decide
  have hmethod := List.all_eq_true.mp hall method h
  simp only [Bool.and_eq_true, decide_eq_true_eq] at hmethod
  exact ⟨hmethod.1.1, hmethod.1.2, hmethod.2⟩

theorem starFree_join_iff {names : List String} (hne : names ≠ [])
    (hplain : ∀ name ∈ names, PlainName name) :
    StarFree (", ".intercalate names) ↔ "*" ∉ names := by
  have hjoin : (", ".intercalate names).toList =
      [',', ' '].intercalate (names.map String.toList) := String.toList_intercalate
  have helements : listElements ',' isOWS (", ".intercalate names).toList =
      names.map String.toList := by
    rw [hjoin]
    apply listElements_intercalate
    · decide
    · decide
    · simpa using hne
    · simp only [List.mem_map, forall_exists_index, and_imp, forall_apply_eq_imp_iff₂]
      intro name hname hcomma
      exact (hplain name hname ',' hcomma).1 rfl
    · simp only [List.mem_map, forall_exists_index, and_imp, forall_apply_eq_imp_iff₂]
      intro name hname c hc
      exact (hplain name hname c hc).2
  rw [StarFree, helements, List.mem_map, not_iff_not]
  constructor
  · rintro ⟨name, hname, hstar⟩
    have : name = "*" := String.toList_inj.mp hstar
    rwa [this] at hname
  · intro hstar
    exact ⟨"*", hstar, rfl⟩

theorem eq_singleton_of_loneWildcard {entries : List String} (h : LoneWildcard entries)
    (hmem : "*" ∈ entries) : entries = ["*"] := by
  cases entries with
  | nil => simp at hmem
  | cons first rest =>
    cases rest with
    | nil => rw [List.mem_singleton.mp hmem]
    | cons second rest => exact absurd ⟨hmem, by simp⟩ h

/-- With credentials a negotiated list holds the wildcard only where it is echoed. -/
theorem starFree_negotiatedValue_iff {allowed : List String} (hlone : LoneWildcard allowed)
    (hplain : ∀ name ∈ allowed, PlainName name) (requested : String) :
    StarFree (negotiatedValue requested allowed true) ↔
      (allowed = ["*"] → StarFree requested) := by
  rw [negotiatedValue, corsWildcard]
  by_cases hempty : allowed = []
  · simp [hempty, starFree_empty]
  · rw [if_neg (by simpa using hempty)]
    by_cases hwild : allowed = ["*"]
    · rw [if_pos hwild]
      by_cases hrequested : requested = ""
      · simp [hrequested, starFree_empty]
      · simp [hrequested, hwild]
    · have hstar : "*" ∉ allowed := fun h => hwild (eq_singleton_of_loneWildcard hlone h)
      rw [if_neg hwild, starFree_join_iff hempty hplain]
      simp [hwild, hstar]

/-- With credentials the exposed headers hold the wildcard exactly beside another name. -/
theorem starFree_exposeHeadersValue_iff {cfg : CORSConfig} (hcred : cfg.allowCredentials = true)
    (hplain : ∀ name ∈ cfg.exposeHeaders, PlainName name) :
    StarFree (exposeHeadersValue cfg) ↔
      ("*" ∈ cfg.exposeHeaders → cfg.exposeHeaders = ["*"]) := by
  rw [exposeHeadersValue, corsWildcard]
  by_cases hempty : cfg.exposeHeaders = []
  · simp [hempty, starFree_empty]
  · rw [if_neg (by simpa using hempty)]
    by_cases hwild : cfg.exposeHeaders = ["*"]
    · rw [if_pos hcred]
      simp [hwild, starFree_empty]
    · rw [if_neg hwild, starFree_join_iff hempty hplain]
      simp [hwild]

/-- No list header the filter writes holds the wildcard. -/
def WritesNoWildcard (cfg : CORSConfig) (req : ProxyRequest) : Prop :=
  ∀ backend, ∀ name ∈ listHeaders, ∀ value ∈ (filteredHeader cfg req backend).values name,
    value ∈ (upstreamHeader req backend).values name ∨ StarFree value

theorem writesNoWildcard_iff (cfg : CORSConfig) (req : ProxyRequest) :
    WritesNoWildcard cfg req ↔
      (originAllowed (req.header.get headerOrigin) cfg.allowOrigins = true →
        ∀ name ∈ listHeaders, StarFree (offered cfg req name)) := by
  constructor
  · intro h hallowed name hname
    have hvalues := values_filteredHeader cfg req hname noHeader
    rw [if_pos hallowed, upstreamHeader, unlessEmpty] at hvalues
    by_cases hempty : offered cfg req name = ""
    · rw [hempty]
      exact starFree_empty
    · rw [if_pos hempty] at hvalues
      rcases h noHeader name hname _ (hvalues ▸ List.mem_singleton.mpr rfl) with hbefore | hfree
      · rw [upstreamHeader] at hbefore
        exact absurd hbefore (by simp [noHeader, Header.values])
      · exact hfree
  · intro h backend name hname value hvalue
    rw [values_filteredHeader cfg req hname] at hvalue
    split at hvalue
    · rename_i hallowed
      rw [unlessEmpty] at hvalue
      split at hvalue
      · rw [List.mem_singleton.mp hvalue]
        exact Or.inr (h hallowed name hname)
      · exact Or.inl hvalue
    · exact Or.inl hvalue

theorem starFree_offered_iff (cfg : CORSConfig) (req : ProxyRequest) :
    (∀ name ∈ listHeaders, StarFree (offered cfg req name)) ↔
      StarFree (req.header.get headerOrigin) ∧ StarFree (exposeHeadersValue cfg) ∧
      (isCORSPreflight req = true →
        StarFree (allowedMethodsValue (req.header.get headerAccessControlRequestMethod) cfg) ∧
        StarFree (allowedHeadersValue (req.header.get headerAccessControlRequestHeaders) cfg)) := by
  have hexpose : offered cfg req headerAccessControlExposeHeaders = exposeHeadersValue cfg := by
    rw [offered, if_neg (by decide), if_pos rfl]
  have hmethods : offered cfg req headerAccessControlAllowMethods =
      if isCORSPreflight req = false then ""
      else allowedMethodsValue (req.header.get headerAccessControlRequestMethod) cfg := by
    rw [offered, if_neg (by decide), if_neg (by decide), if_pos rfl]
  have hheaders : offered cfg req headerAccessControlAllowHeaders =
      if isCORSPreflight req = false then ""
      else allowedHeadersValue (req.header.get headerAccessControlRequestHeaders) cfg := by
    have hne : headerAccessControlAllowHeaders ≠ headerAccessControlAllowMethods := by decide
    rw [offered, if_neg (by decide), if_neg (by decide), if_neg hne]
  simp only [listHeaders, List.forall_mem_cons, List.not_mem_nil, false_imp_iff, forall_const,
    and_true, hexpose, hmethods, hheaders]
  rw [offered]
  cases isCORSPreflight req with
  | false => simp [starFree_empty]
  | true =>
    constructor
    · rintro ⟨horigin, hmethod, hheader, hexposed⟩
      exact ⟨horigin, hexposed, fun _ => ⟨hmethod, hheader⟩⟩
    · rintro ⟨horigin, hexposed, hnegotiated⟩
      exact ⟨horigin, (hnegotiated rfl).1, (hnegotiated rfl).2, hexposed⟩

/-- With credentials the filter writes a wildcard exactly when an allowed request makes it
echo one or the exposed headers hold one beside another name. -/
theorem no_wildcard_with_credentials_iff (filter : HTTPCORSFilter) (hadmitted : Admitted filter)
    (hcred : filter.allowCredentials = some true) (cfg : CORSConfig)
    (hcfg : (convertCORSFilter (some filter)).bind RouteFilter.cors = some cfg)
    (req : ProxyRequest) :
    WritesNoWildcard cfg req ↔
      (originAllowed (req.header.get headerOrigin) filter.allowOrigins = true →
        StarFree (req.header.get headerOrigin) ∧
        ("*" ∈ filter.exposeHeaders → filter.exposeHeaders = ["*"]) ∧
        (isCORSPreflight req = true →
          (filter.allowMethods = ["*"] →
            StarFree (req.header.get headerAccessControlRequestMethod)) ∧
          (filter.allowHeaders = ["*"] →
            StarFree (req.header.get headerAccessControlRequestHeaders)))) := by
  have hconverted : cfg = ⟨filter.allowOrigins, true, filter.allowMethods, filter.allowHeaders,
      filter.exposeHeaders, filter.maxAge⟩ := by
    cases hcfg
    simp [hcred]
  subst hconverted
  rw [writesNoWildcard_iff, starFree_offered_iff, allowedMethodsValue, allowedHeadersValue,
    starFree_negotiatedValue_iff hadmitted.methods_wildcard
      (fun method h => plainName_of_method (hadmitted.methods method h)),
    starFree_negotiatedValue_iff hadmitted.headers_wildcard
      (fun name h => plainName_of_headerName (hadmitted.headers name h)),
    starFree_exposeHeadersValue_iff rfl
      (fun name h => plainName_of_headerName (hadmitted.expose name h))]

def credentialsFilter (allowMethods exposeHeaders : List String) : HTTPCORSFilter :=
  { allowOrigins := ["*"], allowCredentials := some true, allowMethods := allowMethods,
    exposeHeaders := exposeHeaders, maxAge := 5 }

def credentialsConfig (allowMethods exposeHeaders : List String) : CORSConfig :=
  { allowOrigins := ["*"], allowCredentials := true, allowMethods := allowMethods,
    exposeHeaders := exposeHeaders, maxAge := 5 }

def preflightRequest (origin requestedMethod : String) : ProxyRequest :=
  { method := "OPTIONS", host := "api.example.com", path := "/", query := fun _ => [],
    header := (noHeader.set headerOrigin origin).set headerAccessControlRequestMethod
      requestedMethod }

theorem admitted_credentialsFilter (allowMethods exposeHeaders : List String)
    (hmethods : allowMethods = [] ∨ allowMethods = ["*"])
    (hexpose : exposeHeaders = ["*"] ∨ exposeHeaders = ["*", "X-Foo"]) :
    Admitted (credentialsFilter allowMethods exposeHeaders) := by
  have hstar : HeaderName "*" := ⟨by decide, by decide, by decide⟩
  have hfoo : HeaderName "X-Foo" := ⟨by decide, by decide, by decide⟩
  have horigin : CORSOrigin "*" := ⟨Or.inl rfl, by decide, by decide⟩
  rcases hmethods with rfl | rfl <;> rcases hexpose with rfl | rfl <;> constructor <;>
    simp [credentialsFilter, LoneWildcard, httpMethodsWithWildcard, hstar, hfoo, horigin]

theorem get_preflight_starFree :
    Admitted (credentialsFilter ["*"] ["*"]) ∧
      WritesNoWildcard (credentialsConfig ["*"] ["*"]) (preflightRequest "https://bar.com" "GET") :=
  have hadmitted := admitted_credentialsFilter ["*"] ["*"] (Or.inr rfl) (Or.inl rfl)
  ⟨hadmitted, (no_wildcard_with_credentials_iff (credentialsFilter ["*"] ["*"]) hadmitted rfl _ rfl
    (preflightRequest "https://bar.com" "GET")).mpr (by decide +kernel)⟩

/-- A wildcard is echoed from the requested method, kept beside another exposed header and
echoed from an origin that is a list. -/
theorem wildcard_with_credentials :
    Admitted (credentialsFilter ["*"] ["*"]) ∧
      (filteredHeader (credentialsConfig ["*"] ["*"]) (preflightRequest "https://bar.com" "*")
        noHeader).values headerAccessControlAllowMethods = ["*"] ∧
    Admitted (credentialsFilter [] ["*", "X-Foo"]) ∧
      (filteredHeader (credentialsConfig [] ["*", "X-Foo"]) (originRequest "https://bar.com")
        noHeader).values headerAccessControlExposeHeaders = ["*, X-Foo"] ∧
      ¬ StarFree "*, X-Foo" ∧
    (filteredHeader (credentialsConfig [] ["*"]) (originRequest "https://bar.com, *")
      noHeader).values headerAccessControlAllowOrigin = ["https://bar.com, *"] ∧
      ¬ StarFree "https://bar.com, *" := by
  refine ⟨admitted_credentialsFilter _ _ (Or.inr rfl) (Or.inl rfl), by decide +kernel,
    admitted_credentialsFilter _ _ (Or.inl rfl) (Or.inr rfl), ?_⟩
  decide +kernel

end Credentials

end TunnelGateway.Cors
