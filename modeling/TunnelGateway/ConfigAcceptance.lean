import TunnelGateway.ConfigApi
import TunnelGateway.ServiceURL

/-!
What the controller builds and what a replica takes. The converters and the
passes fill every field that validation looks at, whatever the admitted routes
hold, except for the regular expressions they copy: a path pattern may be empty
and any pattern may fail to compile. Nothing bounds the size of the body.
-/
namespace TunnelGateway.ConfigAcceptance

open GoText Fallible GatewayApi RouteSpec ProxyConfig ClusterObjects ServiceTarget
open RouteConversion BackendPasses FailedRefs EffectiveHostnames BuildConfig FanOut BackendFate
open RouteOrigin ServiceURL Router ConfigApi

section Filters

variable {resolvers : Resolvers} {ns : String} {clientCert : Option ClientCertConfig}

theorem clampPercent_bounds (value : ℤ) : 0 ≤ clampPercent value ∧ clampPercent value ≤ 100 := by
  unfold clampPercent
  split_ifs <;> omega

theorem mirrorPercent_bounds {mirror : HTTPRequestMirrorFilter} {pct : ℤ}
    (h : pct ∈ mirrorPercent mirror) : 0 ≤ pct ∧ pct ≤ 100 := by
  unfold mirrorPercent at h
  split at h
  · cases h
    exact clampPercent_bounds _
  · split at h
    · cases h
    · dsimp only at h
      split at h
      · cases h
      · cases h
        exact clampPercent_bounds _

variable {f : RouteFilter}

/-- The converters only emit filters with a payload in range. -/
theorem valid_convertFilter {filter : HTTPRouteFilter} (hadmitted : filter.Admitted)
    (h : (convertFilter resolvers ns clientCert filter).1 = some f) : f.Valid := by
  unfold convertFilter at h
  cases htype : filter.type <;> simp only [htype] at h
  case requestMirror =>
    obtain ⟨m, -, h⟩ := Option.bind_eq_some_iff.mp h
    obtain ⟨⟨mirrorNS, mirrorPort⟩, -, rfl⟩ := Option.map_eq_some_iff.mp h
    exact ⟨_, rfl, fun pct hpct => mirrorPercent_bounds hpct⟩
  case cors =>
    obtain ⟨c, hc, rfl⟩ := Option.map_eq_some_iff.mp h
    exact ⟨_, rfl, hadmitted c hc⟩
  case extensionRef => cases h
  case externalAuth => cases h
  case other => cases h
  all_goals
    obtain ⟨payload, -, rfl⟩ := Option.map_eq_some_iff.mp h
    rfl

theorem valid_convertGRPCFilter {filter : GRPCRouteFilter}
    (h : (convertGRPCFilter filter).1 = some f) : f.Valid := by
  unfold convertGRPCFilter at h
  cases htype : filter.type <;> simp only [htype] at h
  case requestMirror => cases h
  case extensionRef => cases h
  case other => cases h
  all_goals
    obtain ⟨payload, -, rfl⟩ := Option.map_eq_some_iff.mp h
    rfl

theorem valid_collectFilters {α : Type} {convert : α → Option RouteFilter × Bool} {xs : List α}
    (h : ∀ x ∈ xs, ∀ f, (convert x).1 = some f → f.Valid) :
    ∀ f ∈ (collectFilters (xs.map convert)).1, f.Valid := by
  intro f hf
  obtain ⟨converted, hmem, hfst⟩ := List.mem_filterMap.mp hf
  obtain ⟨x, hx, rfl⟩ := List.mem_map.mp hmem
  exact h x hx f hfst

end Filters

section Backends

variable {lib : GoLib} {resolvers : Resolvers} {ns : String}
variable {clientCert : Option ClientCertConfig}

theorem url_ne_empty (scheme rest : String) : scheme ++ "://" ++ rest ≠ "" := by
  intro heq
  have hlist := congrArg String.toList heq
  simp at hlist

variable {b : Backend}

/-- The parts of a backend that are not its URL. -/
structure Sound (b : Backend) : Prop where
  weight : 0 ≤ b.weight
  protocol : isKnownBackendProtocol b.protocol = true
  filters : ∀ f ∈ b.filters, f.Valid

theorem sound_markInvalidBackend {weight : ℤ} {name svcNamespace : String} {port : ℤ}
    {clusterDomain : String}
    (h : markInvalidBackend weight name svcNamespace port clusterDomain = some b) : Sound b := by
  unfold markInvalidBackend at h
  split at h
  · cases h
  · cases h
    exact ⟨by dsimp only; omega, rfl, by simp⟩

theorem Sound.applyFilters (h : Sound b) {filters : List RouteFilter × Bool}
    (hfilters : ∀ f ∈ filters.1, f.Valid) : Sound (applyFilters b filters) :=
  ⟨h.weight, h.protocol, hfilters⟩

theorem Sound.applyBackendTransport (h : Sound b) (svcNamespace serviceName : String) (port : ℤ) :
    Sound (applyBackendTransport resolvers clientCert b svcNamespace serviceName
      port) := by
  refine ⟨h.weight, ?_, h.filters⟩
  simp only [RouteConversion.applyBackendTransport, resolveBackendProtocol, resolveH2C]
  split_ifs <;> rfl

theorem Sound.applyGRPCBackendTransport (h : Sound b) (svcNamespace serviceName : String)
    (port : ℤ) :
    Sound (applyGRPCBackendTransport resolvers clientCert b svcNamespace serviceName port) := by
  simp only [RouteConversion.applyGRPCBackendTransport]
  split
  · exact ⟨h.weight, h.protocol, h.filters⟩
  · split
    · exact ⟨h.weight, h.protocol, h.filters⟩
    · exact ⟨h.weight, rfl, h.filters⟩

theorem sound_convertBackendRef {ref : HTTPBackendRef} (hadmitted : ∀ f ∈ ref.filters, f.Admitted)
    (h : convertBackendRef lib resolvers ns clientCert ref = some b) : Sound b := by
  have hfilters : ∀ f ∈ (collectFilters (ref.filters.map
      (convertFilter resolvers ns clientCert))).1, f.Valid :=
    valid_collectFilters fun f hf _ hg => valid_convertFilter (hadmitted f hf) hg
  cases origin_of_convertBackendRef h with
  | invalid hmark => exact sound_markInvalidBackend hmark
  | external hweight => exact Sound.applyFilters ⟨hweight, rfl, by simp⟩ hfilters
  | service hweight =>
    exact (Sound.applyBackendTransport ⟨hweight, rfl, by simp⟩ _ _ _).applyFilters hfilters

theorem sound_convertGRPCBackendRef {ref : GRPCBackendRef}
    (h : convertGRPCBackendRef lib resolvers ns clientCert ref = some b) : Sound b := by
  have hfilters : ∀ f ∈ (collectFilters (ref.filters.map convertGRPCFilter)).1, f.Valid :=
    valid_collectFilters fun _ _ _ hg => valid_convertGRPCFilter hg
  cases origin_of_convertGRPCBackendRef h with
  | invalid hmark => exact sound_markInvalidBackend hmark
  | external hweight => exact Sound.applyFilters ⟨hweight, rfl, by simp⟩ hfilters
  | service hweight =>
    exact (Sound.applyFilters ⟨hweight, rfl, by simp⟩ hfilters).applyGRPCBackendTransport _ _ _

theorem Sound.valid (h : Sound b) (hurl : IsServiceOrExternal lib b) : b.Valid := by
  refine ⟨?_, h.weight, h.protocol, h.filters⟩
  rcases hurl with ⟨scheme, -, rest, hurl⟩ | ⟨ns, name, hurl⟩ <;> rw [hurl] <;>
    exact url_ne_empty _ _

end Backends

section Matches

variable {lib : GoLib}

/-- The value of a header or query match, if it is a regular expression. -/
def specPatterns (type : Option MatchType) (value : String) : List String :=
  if type = some .regularExpression then [value] else []

def httpPathPatterns (m : HTTPRouteMatch) : List String :=
  m.path.toList.flatMap fun pm =>
    if pm.type = some .regularExpression then [pm.value.getD ""] else []

def httpMatchPatterns (m : HTTPRouteMatch) : List String :=
  httpPathPatterns m ++ m.headers.flatMap (fun header => specPatterns header.type header.value) ++
    m.queryParams.flatMap (fun query => specPatterns query.type query.value)

/-- Service and method are combined into one pattern for the path. -/
def grpcMatchPatterns (lib : GoLib) (m : GRPCRouteMatch) : List String :=
  (grpcMethodToPath lib m.method).toList.flatMap PathMatch.patterns ++
    m.headers.flatMap (fun header => specPatterns header.type header.value)

theorem valuePatterns_convertMatchType (type : Option MatchType) (value : String) :
    valuePatterns (convertMatchType type) value = specPatterns type value := by
  unfold valuePatterns convertMatchType specPatterns
  split_ifs <;> simp_all

theorem patterns_convertPathMatch (pm : HTTPPathMatch) :
    (convertPathMatch pm).patterns =
      if pm.type = some .regularExpression then [pm.value.getD ""] else [] := by
  unfold PathMatch.patterns convertPathMatch
  cases pm.type with
  | none => rfl
  | some type => cases type <;> simp

theorem patterns_convertMatch (m : HTTPRouteMatch) :
    (convertMatch m).patterns = httpMatchPatterns m := by
  have hpath : (convertMatch m).path.toList.flatMap PathMatch.patterns = httpPathPatterns m := by
    unfold convertMatch httpPathPatterns
    cases m.path with
    | none => rfl
    | some pm => simp [patterns_convertPathMatch]
  rw [RouteMatch.patterns, hpath, httpMatchPatterns]
  simp [convertMatch, List.flatMap_map, convertHeaderMatch, convertQueryMatch,
    valuePatterns_convertMatchType]

theorem known_convertMatchType (type : Option MatchType) : (convertMatchType type).Known := by
  intro value
  unfold convertMatchType
  split <;> simp

/-- The path of an admitted match is empty only as a regular expression. -/
theorem valid_convertMatch {m : HTTPRouteMatch} (hadmitted : m.Admitted) :
    (convertMatch m).Valid ↔ "" ∉ httpPathPatterns m := by
  obtain ⟨hpath, hheaders, hqueries⟩ := hadmitted
  have hvalid : (∀ pm ∈ (convertMatch m).path, pm.type.Known ∧ pm.value ≠ "") ↔
      "" ∉ httpPathPatterns m := by
    unfold convertMatch httpPathPatterns
    cases hm : m.path with
    | none => simp
    | some pm =>
      have hknown : (convertPathMatch pm).type.Known := by
        intro value
        simp only [convertPathMatch]
        split <;> simp
      simp only [Option.map_some, Option.mem_def, Option.some.injEq, forall_eq', hknown, true_and,
        Option.toList_some, List.flatMap_singleton]
      split_ifs with htype
      · rw [List.mem_singleton]
        exact not_congr eq_comm
      · refine iff_of_true ?_ (by simp)
        have habs := (hpath pm hm).resolve_left htype
        intro hempty
        cases hvalue : pm.value with
        | none => simp [hvalue] at habs
        | some value =>
          simp only [convertPathMatch, hvalue, Option.getD_some] at hempty
          simp [hvalue, hempty, hasPrefix] at habs
  constructor
  · intro h
    exact hvalid.mp h.path
  · intro h
    refine ⟨hvalid.mpr h, ?_, ?_⟩
    · intro header hheader
      obtain ⟨spec, hspec, rfl⟩ := List.mem_map.mp hheader
      exact ⟨known_convertMatchType _, hheaders spec hspec⟩
    · intro query hquery
      obtain ⟨spec, hspec, rfl⟩ := List.mem_map.mp hquery
      exact ⟨known_convertMatchType _, hqueries spec hspec⟩

/-- What a method match is turned into begins with an anchor or a slash. -/
theorem valid_grpcMethodToPath {method : Option GRPCMethodMatch} {pm : PathMatch}
    (h : grpcMethodToPath lib method = some pm) : pm.type.Known ∧ pm.value ≠ "" := by
  have hne : ∀ (c : Char) (text rest : String), text.toList.head? = some c → text ++ rest ≠ "" := by
    intro c text rest htext heq
    have hlist := congrArg String.toList heq
    rw [String.toList_append] at hlist
    simp [(List.append_eq_nil_iff.mp hlist).1] at htext
  unfold grpcMethodToPath at h
  split at h
  · cases h
  · dsimp only at h
    split_ifs at h
    all_goals
      cases h
      refine ⟨fun value => by simp, ?_⟩
      simp only [String.append_assoc]
      first
        | exact hne '^' _ _ (by decide)
        | exact hne '/' _ _ (by decide)

theorem valid_convertGRPCMatch {m : GRPCRouteMatch} {m' : RouteMatch}
    (hadmitted : ∀ header ∈ m.headers, header.name ≠ "") (h : convertGRPCMatch lib m = some m') :
    m'.Valid := by
  unfold convertGRPCMatch at h
  dsimp only at h
  split at h
  · cases h
  · cases h
    refine ⟨?_, ?_, by simp⟩
    · intro pm hpm
      exact valid_grpcMethodToPath hpm
    · intro header hheader
      obtain ⟨spec, hspec, rfl⟩ := List.mem_map.mp hheader
      exact ⟨known_convertMatchType _, hadmitted spec hspec⟩

theorem patterns_convertGRPCMatch (m : GRPCRouteMatch) :
    (convertGRPCMatch lib m).toList.flatMap RouteMatch.patterns = grpcMatchPatterns lib m := by
  unfold convertGRPCMatch grpcMatchPatterns
  dsimp only
  split
  · rename_i hempty
    simp only [Bool.and_eq_true, Option.isNone_iff_eq_none, List.isEmpty_iff,
      List.map_eq_nil_iff] at hempty
    simp [hempty.1, hempty.2]
  · simp [RouteMatch.patterns, List.flatMap_map, convertGRPCHeaderMatch,
      valuePatterns_convertMatchType]

end Matches

section Fates

/-- Weights are only known up to their sign. -/
theorem valid_core {b : Backend} : (core b).Valid ↔ b.Valid := by
  constructor
  · intro h
    exact ⟨h.url, Int.sign_nonneg_iff.mp h.weight, h.protocol, h.filters⟩
  · intro h
    exact ⟨h.url, Int.sign_nonneg_iff.mpr h.weight, h.protocol, h.filters⟩

def KeepsValid (f : Fate Backend) : Prop := ∀ b : Backend, b.Valid → ∀ d ∈ f b, d.Valid

theorem keepsValid_unchanged : KeepsValid Fate.unchanged := by
  intro b hb d hd
  rwa [List.mem_singleton.mp hd]

theorem KeepsValid.andThen {f g : Fate Backend} (hf : KeepsValid f) (hg : KeepsValid g) :
    KeepsValid (f.andThen g) := by
  intro b hb d hd
  obtain ⟨mid, hmid, hd⟩ := mem_andThen.mp hd
  exact hg mid (hf b hb mid hmid) d hd

variable (lib : GoLib)

theorem keepsValid_expandFate (target : String) (endpoints : List ResolvedEndpoint) :
    KeepsValid (expandFate lib target endpoints) := by
  intro b hb d hd
  unfold expandFate at hd
  split at hd
  · exact keepsValid_unchanged b hb d hd
  · split at hd
    · obtain ⟨ep, -, rfl⟩ := List.mem_map.mp hd
      exact ⟨url_ne_empty _ _, hb.weight, hb.protocol, hb.filters⟩
    · exact keepsValid_unchanged b hb d hd

theorem keepsValid_externalFate (objects : Objects) : KeepsValid (externalFate lib objects) := by
  have hfail : ∀ b : Backend, b.Valid → (failBackend b).Valid := by
    intro b hb
    unfold failBackend
    split
    · exact ⟨hb.url, hb.weight, hb.protocol, hb.filters⟩
    · exact hb
  intro b hb d hd
  rw [List.mem_singleton.mp hd]
  unfold resolveExternalBackend
  split
  · exact hb
  · split
    · exact hfail b hb
    · split
      · exact hfail b hb
      · refine ⟨?_, hb.weight, ?_, hb.filters⟩
        · simp only [externalURL, String.append_assoc]
          rw [← String.append_assoc]
          exact url_ne_empty _ _
        · split
          · rfl
          · exact hb.protocol

theorem keepsValid_passes (s : ProxySyncer) : KeptByPasses s.lib s.objects KeepsValid where
  unchanged := keepsValid_unchanged
  andThen _ _ hf hg := hf.andThen hg
  mark target status b hb d hd := by
    rw [List.mem_singleton.mp hd]
    split
    · exact hb
    · rw [markBackend_frame]
      exact ⟨hb.url, hb.weight, hb.protocol, hb.filters⟩
  expand := keepsValid_expandFate s.lib
  external := keepsValid_externalFate s.lib s.objects

end Fates

section Routes

/-- The route passes the parts of the schema that matter here. -/
def Admitted : AnyRoute → Prop
  | .http route => ∀ rule ∈ route.rules, rule.Admitted
  | .grpc route => ∀ rule ∈ route.rules, rule.Admitted

/-- The regular expressions a route brings into the configuration. -/
def routePatterns (lib : GoLib) : AnyRoute → List String
  | .http route => route.rules.flatMap fun rule => rule.routeMatches.flatMap httpMatchPatterns
  | .grpc route => route.rules.flatMap fun rule =>
      rule.routeMatches.flatMap (grpcMatchPatterns lib)

/-- Those that stand for a path as they are written in the route. -/
def routePathPatterns : AnyRoute → List String
  | .http route => route.rules.flatMap fun rule => rule.routeMatches.flatMap httpPathPatterns
  | .grpc _ => []

variable (s : ProxySyncer)

theorem admitted_setRedirectScheme {scheme : String} {f : HTTPRouteFilter} (h : f.Admitted) :
    (setRedirectScheme scheme f).Admitted := by
  unfold setRedirectScheme
  split <;> exact h

variable {fill : HTTPRouteRule → HTTPRouteRule} (hfill : FillsRedirects fill)
include hfill

theorem routeMatches_fill (rule : HTTPRouteRule) : (fill rule).routeMatches = rule.routeMatches := by
  cases hfill <;> rfl

theorem admitted_fill {rule : HTTPRouteRule} (h : rule.Admitted) : (fill rule).Admitted := by
  cases hfill with
  | unchanged => exact h
  | scheme =>
    obtain ⟨hmatches, hfilters, hbackends⟩ := h
    refine ⟨hmatches, ?_, ?_⟩
    · intro f hf
      obtain ⟨f₀, hf₀, rfl⟩ := List.mem_map.mp hf
      exact admitted_setRedirectScheme (hfilters f₀ hf₀)
    · intro ref href f hf
      obtain ⟨ref₀, href₀, rfl⟩ := List.mem_map.mp href
      obtain ⟨f₀, hf₀, rfl⟩ := List.mem_map.mp hf
      exact admitted_setRedirectScheme (hbackends ref₀ href₀ f₀ hf₀)

omit hfill

variable {lib : GoLib} {resolvers : Resolvers} {ns : String} {hostnames : List String}
variable {clientCert : Option ClientCertConfig}

theorem valid_convertHTTPRouteRule {rule : HTTPRouteRule} (hadmitted : rule.Admitted) :
    (convertHTTPRouteRule lib resolvers ns hostnames clientCert rule).Valid ↔
      "" ∉ rule.routeMatches.flatMap httpPathPatterns := by
  obtain ⟨hmatches, hfilters, hrefs⟩ := hadmitted
  constructor
  · intro h hmem
    obtain ⟨m, hm, hempty⟩ := List.mem_flatMap.mp hmem
    have hvalid := h.routeMatches (convertMatch m) (List.mem_map_of_mem hm)
    exact (valid_convertMatch (hmatches m hm)).mp hvalid hempty
  · intro h
    refine ⟨?_, ?_, ?_⟩
    · intro b hb
      obtain ⟨ref, href, hconv⟩ := List.mem_filterMap.mp hb
      exact (sound_convertBackendRef (hrefs ref href) hconv).valid (url_convertBackendRef hconv)
    · intro m' hm'
      obtain ⟨m, hm, rfl⟩ := List.mem_map.mp hm'
      refine (valid_convertMatch (hmatches m hm)).mpr ?_
      intro hempty
      exact h (List.mem_flatMap.mpr ⟨m, hm, hempty⟩)
    · exact valid_collectFilters fun f hf _ hg => valid_convertFilter (hfilters f hf) hg

theorem valid_convertGRPCRouteRule {rule : GRPCRouteRule} (hadmitted : rule.Admitted) :
    (convertGRPCRouteRule lib resolvers ns hostnames clientCert rule).Valid := by
  refine ⟨?_, ?_, ?_⟩
  · intro b hb
    obtain ⟨ref, -, hconv⟩ := List.mem_filterMap.mp hb
    exact (sound_convertGRPCBackendRef hconv).valid (url_convertGRPCBackendRef hconv)
  · intro m' hm'
    obtain ⟨m, hm, hconv⟩ := List.mem_filterMap.mp hm'
    exact valid_convertGRPCMatch (hadmitted m hm) hconv
  · exact valid_collectFilters fun _ _ _ hg => valid_convertGRPCFilter hg

theorem patterns_convertHTTPRouteRule (rule : HTTPRouteRule) :
    (convertHTTPRouteRule lib resolvers ns hostnames clientCert rule).patterns =
      rule.routeMatches.flatMap httpMatchPatterns := by
  simp [RouteRule.patterns, convertHTTPRouteRule, List.flatMap_map, patterns_convertMatch]

theorem patterns_convertGRPCRouteRule (rule : GRPCRouteRule) :
    (convertGRPCRouteRule lib resolvers ns hostnames clientCert rule).patterns =
      rule.routeMatches.flatMap (grpcMatchPatterns lib) := by
  simp [RouteRule.patterns, convertGRPCRouteRule, List.filterMap_eq_flatMap_toList,
    List.flatMap_assoc, patterns_convertGRPCMatch]

end Routes

section Build

variable {s : ProxySyncer}

variable {certResolver : String → String → Option ClientCertConfig}

variable (s certResolver) in
theorem rules_convertAnyRoute_http (route : HTTPRoute) :
    ∃ fill ns hostnames cert, FillsRedirects fill ∧
      (convertAnyRoute s certResolver (.http route)).map ConvertedRule.rule =
        route.rules.map fun rule =>
          convertHTTPRouteRule s.lib (s.resolvers .HTTPRoute) ns hostnames cert (fill rule) := by
  obtain ⟨fill, hfill, heq⟩ := prepareHTTPRoute_spec s route
  have hrules : (convertAnyRoute s certResolver (.http route)).map ConvertedRule.rule = _ :=
    map_rule_convertRoute _
  conv_rhs at hrules => rw [heq, List.map_map]
  exact ⟨fill, _, _, _, hfill, hrules⟩

variable (s certResolver) in
theorem rules_convertAnyRoute_grpc (route : GRPCRoute) :
    ∃ ns hostnames cert, (convertAnyRoute s certResolver (.grpc route)).map ConvertedRule.rule =
      route.rules.map (convertGRPCRouteRule s.lib (s.resolvers .GRPCRoute) ns hostnames cert) := by
  have hrules : (convertAnyRoute s certResolver (.grpc route)).map ConvertedRule.rule = _ :=
    map_rule_convertRoute _
  conv_rhs at hrules => rw [prepareGRPCRoute_spec]
  exact ⟨_, _, _, hrules⟩

variable {route : AnyRoute}

variable (s certResolver) in
theorem valid_convertAnyRoute (hadmitted : Admitted route) :
    (∀ rule ∈ (convertAnyRoute s certResolver route).map ConvertedRule.rule, rule.Valid) ↔
      "" ∉ routePathPatterns route := by
  cases route with
  | http route =>
    obtain ⟨fill, ns, hostnames, cert, hfill, hrules⟩ := rules_convertAnyRoute_http s certResolver route
    simp only [hrules, List.forall_mem_map, routePathPatterns, List.mem_flatMap, not_exists, not_and]
    refine forall₂_congr fun rule hrule => ?_
    rw [valid_convertHTTPRouteRule (admitted_fill hfill (hadmitted rule hrule)),
      routeMatches_fill hfill]
    simp
  | grpc route =>
    obtain ⟨ns, hostnames, cert, hrules⟩ := rules_convertAnyRoute_grpc s certResolver route
    rw [hrules, List.forall_mem_map]
    exact iff_of_true (fun rule hrule => valid_convertGRPCRouteRule (hadmitted rule hrule))
      List.not_mem_nil

variable (s certResolver route) in
theorem patterns_convertAnyRoute :
    ((convertAnyRoute s certResolver route).map ConvertedRule.rule).flatMap RouteRule.patterns =
      routePatterns s.lib route := by
  cases route with
  | http route =>
    obtain ⟨fill, ns, hostnames, cert, hfill, hrules⟩ := rules_convertAnyRoute_http s certResolver route
    simp only [hrules, List.flatMap_map, patterns_convertHTTPRouteRule, routeMatches_fill hfill]
    rfl
  | grpc route =>
    obtain ⟨ns, hostnames, cert, hrules⟩ := rules_convertAnyRoute_grpc s certResolver route
    simp only [hrules, List.flatMap_map, patterns_convertGRPCRouteRule]
    rfl

theorem backends_valid_convertAnyRoute (hadmitted : Admitted route) {c : ConvertedRule}
    (hc : c ∈ convertAnyRoute s certResolver route) {b : Backend} (hb : b ∈ c.rule.backends) :
    b.Valid := by
  have hurl := url_convertAnyRoute hc hb
  have hrule := List.mem_map_of_mem (f := ConvertedRule.rule) hc
  cases route with
  | http route =>
    obtain ⟨fill, ns, hostnames, cert, hfill, hrules⟩ := rules_convertAnyRoute_http s certResolver route
    rw [hrules] at hrule
    obtain ⟨rule, hrule, heq⟩ := List.mem_map.mp hrule
    rw [← heq] at hb
    obtain ⟨ref, href, hconv⟩ := List.mem_filterMap.mp hb
    exact (sound_convertBackendRef ((admitted_fill hfill (hadmitted rule hrule)).2.2 ref href)
      hconv).valid hurl
  | grpc route =>
    obtain ⟨ns, hostnames, cert, hrules⟩ := rules_convertAnyRoute_grpc s certResolver route
    rw [hrules] at hrule
    obtain ⟨rule, -, heq⟩ := List.mem_map.mp hrule
    rw [← heq] at hb
    obtain ⟨ref, -, hconv⟩ := List.mem_filterMap.mp hb
    exact (sound_convertGRPCBackendRef hconv).valid hurl

/-- A rewriting that keeps backends valid decides nothing about the rule. -/
theorem valid_iff_of_rewrites {f : Fate Backend} (hf : KeepsValid f) {rule rule' : RouteRule}
    (h : Rewrites f rule rule') (hbackends : ∀ b ∈ rule.backends, b.Valid) :
    rule'.Valid ↔ rule.Valid := by
  have hbackends' : ∀ b ∈ rule'.backends, b.Valid := by
    intro b hb
    have hmem : core b ∈ (rule.backends.map core).flatMap f := by
      rw [← h.backends]
      exact List.mem_map_of_mem hb
    obtain ⟨c, hc, hfate⟩ := List.mem_flatMap.mp hmem
    obtain ⟨b₀, hb₀, rfl⟩ := List.mem_map.mp hc
    exact valid_core.mp (hf _ (valid_core.mpr (hbackends b₀ hb₀)) _ hfate)
  constructor
  · intro hvalid
    exact ⟨hbackends, h.routeMatches ▸ hvalid.routeMatches, h.filters ▸ hvalid.filters⟩
  · intro hvalid
    exact ⟨hbackends', h.routeMatches ▸ hvalid.routeMatches, h.filters ▸ hvalid.filters⟩

variable (s) in
/-- The configuration pushed for a set of routes. -/
def builtConfig (version : ℤ) (set : RouteSet) (failedRefs grpcFailedRefs : List BackendRefError) :
    Config :=
  (s.buildProxyConfig version set.http set.grpc failedRefs grpcFailedRefs).config

variable (s) in
/-- The passes leave the matches alone. -/
theorem routeMatches_builtConfig (version : ℤ) (set : RouteSet)
    (failedRefs grpcFailedRefs : List BackendRefError) :
    (builtConfig s version set failedRefs grpcFailedRefs).rules.map RouteRule.routeMatches =
      (convertedRules s set.http set.grpc).map (·.rule.routeMatches) := by
  rw [builtConfig, BuiltConfig.config, List.map_map]
  have hall := rewritesAll_buildProxyConfig s version set.http set.grpc failedRefs grpcFailedRefs
  rw [← List.forall₂_eq_eq_eq, List.forall₂_map_left_iff, List.forall₂_map_right_iff]
  exact hall.flip.imp fun _ _ h => h.2.routeMatches

variable {version : ℤ} {set : RouteSet} {failedRefs grpcFailedRefs : List BackendRefError}

theorem mem_patterns_builtConfig (p : String) :
    p ∈ (builtConfig s version set failedRefs grpcFailedRefs).patterns ↔
      ∃ route ∈ set, p ∈ routePatterns s.lib route := by
  have hpatterns : (builtConfig s version set failedRefs grpcFailedRefs).patterns =
      (convertedRules s set.http set.grpc).flatMap (·.rule.patterns) := by
    have hmap := congrArg (List.flatMap fun ms => ms.flatMap RouteMatch.patterns)
      (routeMatches_builtConfig s version set failedRefs grpcFailedRefs)
    rw [List.flatMap_map, List.flatMap_map] at hmap
    exact hmap
  simp only [hpatterns, List.mem_flatMap, mem_convertedRules,
    ← patterns_convertAnyRoute s s.gatewayCertResolver, List.mem_map]
  aesop

/-- Empty path patterns are all that validation can object to. -/
theorem valid_builtConfig (hadmitted : ∀ route ∈ set, Admitted route) (hversion : 0 ≤ version) :
    (builtConfig s version set failedRefs grpcFailedRefs).Valid ↔
      ∀ route ∈ set, "" ∉ routePathPatterns route := by
  have hall := rewritesAll_buildProxyConfig s version set.http set.grpc failedRefs grpcFailedRefs
  have hkeeps := (keepsValid_passes s).build set.http set.grpc failedRefs grpcFailedRefs
  have hbackends : ∀ c ∈ convertedRules s set.http set.grpc, ∀ b ∈ c.rule.backends, b.Valid := by
    intro c hc b hb
    obtain ⟨route, hroute, hc⟩ := (mem_convertedRules s set c).mp hc
    exact backends_valid_convertAnyRoute (hadmitted route hroute) hc hb
  constructor
  · intro h route hroute
    refine (valid_convertAnyRoute s s.gatewayCertResolver (hadmitted route hroute)).mp ?_
    rw [List.forall_mem_map]
    intro c hc
    have hmem := (mem_convertedRules s set c).mpr ⟨route, hroute, hc⟩
    obtain ⟨built, hbuilt, -, hrewrites⟩ := exists_right_of_forall₂ hall hmem
    exact (valid_iff_of_rewrites (hkeeps _) hrewrites (hbackends c hmem)).mp
      (h.rules built.rule (List.mem_map_of_mem hbuilt))
  · intro h
    refine ⟨hversion, ?_⟩
    intro rule hrule
    obtain ⟨built, hbuilt, rfl⟩ := List.mem_map.mp hrule
    obtain ⟨c, hmem, -, hrewrites⟩ := exists_left_of_forall₂ hall hbuilt
    obtain ⟨route, hroute, hc⟩ := (mem_convertedRules s set c).mp hmem
    exact (valid_iff_of_rewrites (hkeeps _) hrewrites (hbackends c hmem)).mpr
      ((valid_convertAnyRoute s _ (hadmitted route hroute)).mpr (h route hroute) _
        (List.mem_map_of_mem hc))

/-- Every regular expression of the routes compiles, and none that stands for a
path is empty. -/
def PatternsTaken (lib : GoLib) (set : RouteSet) : Prop :=
  ∀ route ∈ set, "" ∉ routePathPatterns route ∧ ∀ p ∈ routePatterns lib route, Compiles lib p

variable (s failedRefs grpcFailedRefs) in
theorem patternsTaken_iff (hadmitted : ∀ route ∈ set, Admitted route) (hversion : 0 ≤ version) :
    PatternsTaken s.lib set ↔
      (builtConfig s version set failedRefs grpcFailedRefs).Valid ∧
        ∀ p ∈ (builtConfig s version set failedRefs grpcFailedRefs).patterns,
          Compiles s.lib p := by
  rw [valid_builtConfig hadmitted hversion]
  simp only [mem_patterns_builtConfig]
  constructor
  · intro h
    refine ⟨fun route hroute => (h route hroute).1, ?_⟩
    intro p hp
    obtain ⟨route, hroute, hp⟩ := hp
    exact (h route hroute).2 p hp
  · intro h route hroute
    exact ⟨h.1 route hroute, fun p hp => h.2 p ⟨route, hroute, hp⟩⟩

end Build

section Acceptance

variable {s : ProxySyncer} {order : WildcardOrder} {wire : WireFormat} {api : ConfigAPI}
variable {table : RoutingTable} {version : ℤ} {set : RouteSet}

/-- A configuration built from admitted routes is valid and compiles where the
patterns do, and a replica at a lower version takes it exactly when its body also
fits; a body that does not leaves the replica as it was. -/
theorem built_config_taken_iff (hadmitted : ∀ route ∈ set, Admitted route)
    (hfactory : api.hasTransportFactory = true) (hnonneg : 0 ≤ table.version)
    (hnewer : table.version < version) (failedRefs grpcFailedRefs : List BackendRefError) :
    (PatternsTaken s.lib set →
      (builtConfig s version set failedRefs grpcFailedRefs).validate = .ok () ∧
        ∃ updated, compileRoutingTable s.lib order
          (builtConfig s version set failedRefs grpcFailedRefs) = .ok updated) ∧
    ((handlePutConfig s.lib order wire api table (pushRequest wire api.authToken
        (builtConfig s version set failedRefs grpcFailedRefs))).1.status = statusOK ↔
      PatternsTaken s.lib set ∧
        wire.size (wire.marshal (builtConfig s version set failedRefs grpcFailedRefs)) ≤
          maxConfigBodySize) ∧
    (maxConfigBodySize <
        wire.size (wire.marshal (builtConfig s version set failedRefs grpcFailedRefs)) →
      handlePutConfig s.lib order wire api table (pushRequest wire api.authToken
          (builtConfig s version set failedRefs grpcFailedRefs)) =
        (⟨statusRequestEntityTooLarge, "config body exceeds maximum size"⟩, table)) := by
  have hversion : 0 ≤ version := by omega
  have htaken := patternsTaken_iff s failedRefs grpcFailedRefs hadmitted hversion
  refine ⟨?_, ?_, ?_⟩
  · intro h
    obtain ⟨hvalid, hpatterns⟩ := htaken.mp h
    exact ⟨(Config.validate_eq_ok _).mpr hvalid,
      (compileRoutingTable_isOk s.lib order hvalid).mpr hpatterns⟩
  · have hfresh : table.version ≤ (builtConfig s version set failedRefs grpcFailedRefs).version :=
      hnewer.le
    rw [status_push_eq_ok hfresh hfactory, htaken, and_comm]
  · intro hsize
    rw [handlePutConfig_push, if_neg (by omega)]

end Acceptance

section Examples

/-- The longest value a header match may have. -/
def longValue : String := String.ofList (List.replicate 4096 'a')

def longMatch : HTTPRouteMatch where
  headers := (List.range 16).map fun i => ⟨none, "X-" ++ toString i, longValue⟩

/-- One route within the limits of the schema. -/
def longRoute : HTTPRoute :=
  ⟨.of "apps" "long", 0, [], [],
    [{ routeMatches := List.replicate 17 longMatch }]⟩

theorem len_longValue : len longValue = 4096 := by
  have hsize : ∀ n : ℕ, len (String.ofList (List.replicate n 'a')) = n := by
    intro n
    induction n with
    | zero => rfl
    | succ n ih =>
      have hcons : String.ofList (List.replicate (n + 1) 'a') =
          "a" ++ String.ofList (List.replicate n 'a') := by
        rw [← String.toList_inj, String.toList_append, List.replicate_succ]
        simp
      rw [hcons, len_append]
      have hone : len "a" = 1 := rfl
      omega
  exact hsize 4096

theorem routeMatches_longRoute (s : ProxySyncer) :
    (convertedRules s [longRoute] []).map (·.rule.routeMatches) =
      [List.replicate 17 (convertMatch longMatch)] := by
  obtain ⟨fill, ns, hostnames, cert, hfill, hrules⟩ :=
    rules_convertAnyRoute_http s s.gatewayCertResolver longRoute
  have hnone : s.grpcRules [] = [] := rfl
  have hhttp : s.httpRules [longRoute] =
      convertAnyRoute s s.gatewayCertResolver (.http longRoute) := by
    rw [ProxySyncer.httpRules, convertHTTPRoutes]
    exact List.flatMap_singleton _ _
  have hmap := congrArg (List.map RouteRule.routeMatches) hrules
  rw [List.map_map] at hmap
  rw [convertedRules, hnone, hhttp, List.append_nil]
  refine hmap.trans ?_
  simp [longRoute, convertHTTPRouteRule, routeMatches_fill hfill]

theorem headerBytes_longRoute (s : ProxySyncer) (version : ℤ) :
    headerBytes (builtConfig s version (.single (.http longRoute)) [] []) = 1114112 := by
  have hmatches := routeMatches_builtConfig s version (.single (.http longRoute)) [] []
  have hconverted : (convertedRules s (RouteSet.single (.http longRoute)).http
      (RouteSet.single (.http longRoute)).grpc).map (·.rule.routeMatches) =
      [List.replicate 17 (convertMatch longMatch)] := routeMatches_longRoute s
  have hsum := congrArg (fun mss : List (List RouteMatch) => (mss.flatMap fun ms =>
    ms.flatMap fun m => m.headers.map fun header => len header.value).sum)
    (hmatches.trans hconverted)
  have hheaders : ((convertMatch longMatch).headers.map fun header => len header.value) =
      List.replicate 16 4096 := by
    have hvalues : (convertMatch longMatch).headers.map HeaderMatch.value =
        List.replicate 16 longValue := by
      simp [convertMatch, longMatch, Function.comp_def, convertHeaderMatch]
    rw [← len_longValue, ← List.map_replicate, ← hvalues]
    rfl
  simp only [List.flatMap_map, List.flatMap_singleton] at hsum
  rw [headerBytes, hsum, List.flatMap_replicate, hheaders]
  simp only [List.sum_flatten, List.map_replicate, List.sum_replicate_nat]

/-- A path pattern that the schema admits and no replica takes. -/
def emptyPatternRoute : HTTPRoute :=
  ⟨.of "apps" "pattern", 0, [], [],
    [{ routeMatches := [{ path := some ⟨some .regularExpression, some ""⟩ }] }]⟩

def emptySyncer : ProxySyncer where
  objects :=
    { gateways := []
      listenerSets := []
      gatewayClasses := []
      namespaces := []
      labelSelectorAsSelector := fun _ => none
      parsesCABundle := fun _ => true
      x509KeyPair := fun _ _ => true }
  lib := .literal
  clusterDomain := "cluster.local"
  controllerName := "example.com/tunnel"

/-- An admitted route without regular expressions makes the body too large for
every replica; an empty path pattern fails validation. -/
theorem long_headers_refused :
    (Admitted (.http longRoute) ∧ routePatterns .literal (.http longRoute) = [] ∧
      ∀ (order : WildcardOrder) (wire : WireFormat) (api : ConfigAPI) (table : RoutingTable),
        handlePutConfig .literal order wire api table (pushRequest wire api.authToken
            (builtConfig emptySyncer 1 (.single (.http longRoute)) [] [])) =
          (⟨statusRequestEntityTooLarge, "config body exceeds maximum size"⟩, table)) ∧
    Admitted (.http emptyPatternRoute) ∧
      (builtConfig emptySyncer 1 (.single (.http emptyPatternRoute)) [] []).validate =
        .error "rule[0]: match[0]: path: value is required" := by
  refine ⟨⟨?_, by decide +kernel, ?_⟩, ?_, by decide +kernel⟩
  · have hrules : ∀ rule ∈ longRoute.rules, rule.Admitted := by decide +kernel
    exact hrules
  · intro order wire api table
    have hbytes := wire.headerBytes_le (builtConfig emptySyncer 1 (.single (.http longRoute)) [] [])
    rw [headerBytes_longRoute] at hbytes
    rw [handlePutConfig_push, if_neg]
    unfold maxConfigBodySize
    omega
  · have hrules : ∀ rule ∈ emptyPatternRoute.rules, rule.Admitted := by decide +kernel
    exact hrules

/-- A pattern the library compiles. -/
def patternRoute : HTTPRoute :=
  ⟨.of "apps" "site", 0, [], [],
    [{ routeMatches := [{ path := some ⟨some .regularExpression, some "/shop"⟩ }]
       backendRefs := [{ name := "web" }] }]⟩

def freshTable : RoutingTable := ⟨[], [], [], 0⟩

theorem patternRoute_taken :
    Admitted (.http patternRoute) ∧
    (handlePutConfig .literal .stable .counting ⟨"secret", true⟩ freshTable
      (pushRequest .counting "secret"
        (builtConfig emptySyncer 1 (.single (.http patternRoute)) [] []))).1.status = statusOK := by
  have hrules : ∀ rule ∈ patternRoute.rules, rule.Admitted := by decide +kernel
  have hadmitted : ∀ route ∈ RouteSet.single (.http patternRoute), Admitted route := by
    intro route hroute
    rw [RouteSet.mem_single.mp hroute]
    exact hrules
  have htaken : PatternsTaken emptySyncer.lib (.single (.http patternRoute)) := by
    intro route hroute
    rw [RouteSet.mem_single.mp hroute]
    have hpatterns : routePatterns emptySyncer.lib (.http patternRoute) = ["/shop"] := by
      decide +kernel
    refine ⟨by decide +kernel, ?_⟩
    rw [hpatterns]
    intro p hp
    rw [List.mem_singleton.mp hp]
    exact ⟨_, rfl⟩
  have hiff := (@built_config_taken_iff emptySyncer .stable .counting ⟨"secret", true⟩ freshTable 1
    (.single (.http patternRoute)) hadmitted rfl (by decide) (by decide) [] []).2.1
  exact ⟨hrules, hiff.mpr ⟨htaken, by decide +kernel⟩⟩

end Examples

end TunnelGateway.ConfigAcceptance
