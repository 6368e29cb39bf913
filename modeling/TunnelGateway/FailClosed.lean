import TunnelGateway.BackendAuthorization
import TunnelGateway.Forwarding
import TunnelGateway.RouteOrigin

/-!
The backend pipeline fails closed. A backend that the built configuration calls
available comes from a reference that passed every check of the conversion; the
passes after the conversion can take availability away but never give it back,
and the handler forwards to available backends only.
-/
namespace TunnelGateway.FailClosed

open GoText GatewayApi RouteSpec ProxyConfig ClusterObjects ServiceTarget ClusterResolvers
  RouteConversion BackendPasses FailedRefs EffectiveHostnames BuildConfig FanOut BackendFate
  RouteOrigin BackendAuthorization RequestFilters Forwarding

section Marks

/-- A backend that is marked unavailable stays so. -/
def NeverRevives (f : Fate Backend) : Prop :=
  ∀ b, b.unavailableStatus ≠ 0 → ∀ d ∈ f b, d.unavailableStatus ≠ 0

theorem NeverRevives.andThen {f g : Fate Backend} (hf : NeverRevives f) (hg : NeverRevives g) :
    NeverRevives (f.andThen g) := by
  intro b hb d hd
  obtain ⟨mid, hmid, hd⟩ := mem_andThen.mp hd
  exact hg mid (hf b hb mid hmid) d hd

variable (lib : GoLib)

theorem not_unmarkedAt (target : String) {b : Backend} (hb : b.unavailableStatus ≠ 0) :
    unmarkedAt lib target b = false := by
  simp [unmarkedAt, hb]

theorem neverRevives_externalFate (objects : Objects) :
    NeverRevives (externalFate lib objects) := by
  intro b hb d hd
  have hfail : failBackend b = b := if_neg hb
  rw [List.mem_singleton.mp hd]
  unfold resolveExternalBackend
  split
  · exact hb
  · split
    · rwa [hfail]
    · split
      · rwa [hfail]
      · exact hb

theorem neverRevives_passes (s : ProxySyncer) : KeptByPasses s.lib s.objects NeverRevives where
  unchanged b hb d hd := by rwa [List.mem_singleton.mp hd]
  andThen _ _ hf hg := hf.andThen hg
  mark target status b hb d hd := by
    have hsame : markBackend s.lib target status b = b :=
      if_neg (Bool.eq_false_iff.mp (not_unmarkedAt s.lib target hb))
    rw [markFate, hsame, ite_self, List.mem_singleton] at hd
    rwa [hd]
  expand target endpoints b hb d hd := by
    have hmatch : backendMatchesHeadless s.lib target b = false := by
      simp [backendMatchesHeadless, not_unmarkedAt s.lib target hb]
    simp only [expandFate, hmatch, Bool.false_eq_true, if_false, ite_self,
      List.mem_singleton] at hd
    rwa [hd]
  external := neverRevives_externalFate s.lib s.objects

/-- The pass turns the backends of every rule into their fates, and no marked one
into one that is not. -/
def KeepsMarks (pass : List ConvertedRule → List ConvertedRule) : Prop :=
  ∀ rules, ∃ fate, NeverRevives fate ∧ RewritesAll (fun _ => fate) rules (pass rules)

variable (s : ProxySyncer)

end Marks

section References

/-- A backend reference of a route of either kind. -/
inductive AnyRef where
  | http (ref : HTTPBackendRef)
  | grpc (ref : GRPCBackendRef)
  deriving DecidableEq

namespace AnyRef

def kind : AnyRef → RouteKind
  | .http _ => .HTTPRoute
  | .grpc _ => .GRPCRoute

def toBackendRef : AnyRef → RouteSpec.BackendRef
  | .http ref => ref.toBackendRef
  | .grpc ref => ref.toBackendRef

/-- The object the reference names. -/
def target (ref : AnyRef) : BackendObjectReference := ref.toBackendRef.toBackendObjectReference

/-- Some filter of the reference is not supported on a backend. -/
def unsupported : AnyRef → Bool
  | .http ref => ref.filters.any unsupportedHTTPFilter
  | .grpc ref => ref.filters.any unsupportedGRPCFilter

def convert (s : ProxySyncer) (routeNS : String) (clientCert : Option ClientCertConfig) :
    AnyRef → Option Backend
  | .http ref => convertBackendRef s.lib (s.resolvers .HTTPRoute) routeNS clientCert ref
  | .grpc ref => convertGRPCBackendRef s.lib (s.resolvers .GRPCRoute) routeNS clientCert ref

theorem conversion (s : ProxySyncer) (routeNS : String) (clientCert : Option ClientCertConfig)
    (ref : AnyRef) : Conversion (s.resolvers ref.kind) ref.toBackendRef routeNS ref.unsupported
      (ref.convert s routeNS clientCert) := by
  cases ref with
  | http ref => exact conversion_http s.lib _ routeNS clientCert ref
  | grpc ref => exact conversion_grpc s.lib _ routeNS clientCert ref

/-- Two references that differ at most in the settings of their filters. -/
structure Alike (ref ref' : AnyRef) : Prop where
  kind : ref'.kind = ref.kind
  backendRef : ref'.toBackendRef = ref.toBackendRef
  unsupported : ref'.unsupported = ref.unsupported

theorem Alike.refl (ref : AnyRef) : Alike ref ref := ⟨rfl, rfl, rfl⟩

end AnyRef

/-- The references of a route's rule. -/
def ruleRefs : AnyRoute → ℕ → List AnyRef
  | .http route, i => ((route.rules[i]?.map HTTPRouteRule.backendRefs).getD []).map .http
  | .grpc route, i => ((route.rules[i]?.map GRPCRouteRule.backendRefs).getD []).map .grpc

theorem unsupported_setRedirectScheme (scheme : String) (filter : HTTPRouteFilter) :
    unsupportedHTTPFilter (setRedirectScheme scheme filter) = unsupportedHTTPFilter filter := by
  unfold setRedirectScheme
  split <;> rfl

variable (s : ProxySyncer)

/-- A route with its references as they are converted. -/
def prepareRoute : AnyRoute → AnyRoute
  | .http route => .http (prepareHTTPRoute s route)
  | .grpc route => .grpc (prepareGRPCRoute s route)

/-- Preparing a route fills in the schemes of redirects and keeps the references. -/
theorem forall₂_alike (route : AnyRoute) (i : ℕ) :
    List.Forall₂ AnyRef.Alike (ruleRefs route i) (ruleRefs (prepareRoute s route) i) := by
  cases route with
  | grpc route =>
    rw [prepareRoute, prepareGRPCRoute_spec]
    exact List.forall₂_same.mpr fun ref _ => .refl ref
  | http route =>
    obtain ⟨fill, hfill, heq⟩ := prepareHTTPRoute_spec s route
    rw [prepareRoute, heq]
    simp only [ruleRefs, List.getElem?_map]
    cases route.rules[i]? with
    | none => exact .nil
    | some rule =>
      cases hfill with
      | unchanged => exact List.forall₂_same.mpr fun ref _ => .refl ref
      | scheme scheme =>
        simp only [Option.map_some, Option.getD_some, List.map_map]
        rw [List.forall₂_map_left_iff, List.forall₂_map_right_iff]
        refine List.forall₂_same.mpr fun ref _ => ⟨rfl, rfl, ?_⟩
        simp [AnyRef.unsupported, Function.comp_def, unsupported_setRedirectScheme]

/-- The backends of a converted rule are its references, as far as they convert. -/
theorem backends_of_mem_convertAnyRoute {route : AnyRoute} {c : ConvertedRule}
    (hc : c ∈ convertAnyRoute s s.gatewayCertResolver route) :
    ∃ clientCert, c.rule.backends =
      (ruleRefs (prepareRoute s route) c.provenance.ruleIndex).filterMap
        (AnyRef.convert s route.id.ns clientCert) := by
  cases route with
  | http route =>
    obtain ⟨i, rule, hrule, rfl⟩ := (mem_convertRoute c).mp hc
    refine ⟨resolveFirstParentClientCertFromRefs s.gatewayCertResolver
      (prepareHTTPRoute s route).id.ns (prepareHTTPRoute s route).parentRefs, ?_⟩
    simp only [prepareRoute, ruleRefs, hrule, List.filterMap_map]
    rw [(prepareHTTPRoute_frame s route).1]
    rfl
  | grpc route =>
    obtain ⟨i, rule, hrule, rfl⟩ := (mem_convertRoute c).mp hc
    refine ⟨resolveFirstParentClientCertFromRefs s.gatewayCertResolver
      (prepareGRPCRoute s route).id.ns (prepareGRPCRoute s route).parentRefs, ?_⟩
    simp only [prepareRoute, ruleRefs, hrule, List.filterMap_map]
    rw [(prepareGRPCRoute_frame s route).1]
    rfl

/-- Every converted backend is the conversion of a reference of its rule. -/
theorem exists_ref_of_converted {route : AnyRoute} {c : ConvertedRule}
    (hc : c ∈ convertAnyRoute s s.gatewayCertResolver route) {b : Backend}
    (hb : b ∈ c.rule.backends) :
    ∃ ref₀ ∈ ruleRefs route c.provenance.ruleIndex, ∃ ref clientCert,
      AnyRef.Alike ref₀ ref ∧ ref.convert s route.id.ns clientCert = some b := by
  obtain ⟨clientCert, hbackends⟩ := backends_of_mem_convertAnyRoute s hc
  rw [hbackends] at hb
  obtain ⟨ref, href, hconvert⟩ := List.mem_filterMap.mp hb
  obtain ⟨ref₀, href₀, halike⟩ := exists_left_of_forall₂ (forall₂_alike s route _) href
  exact ⟨ref₀, href₀, ref, clientCert, halike, hconvert⟩

end References

section Pipeline

variable (s : ProxySyncer)

/-- The reference may be served, and the backend is safe to dial. -/
structure Serviceable (routeNS : String) (ref : AnyRef) (b : Backend) : Prop where
  kind : isSupportedBackendRef ref.target = true
  port : isExternalBackendRef ref.target = false →
    1 ≤ refPort ref.target ∧ refPort ref.target ≤ 65535
  cross : refNamespace ref.target routeNS = routeNS ∨
    newBackendRefValidator s.objects ref.kind routeNS ref.target = true
  filters : ref.unsupported = false
  tls : isExternalBackendRef ref.target = false →
    isTLSAppProtocol (newBackendProtocolResolver s.objects (refNamespace ref.target routeNS)
      ref.target.name (refPort ref.target)) = true → b.tls ≠ none

variable {ref : AnyRef} {b : Backend} {routeNS : String}

/-- A converted backend that is available comes from a reference that may be
served. -/
theorem serviceable_of_convert {clientCert : Option ClientCertConfig}
    (h : ref.convert s routeNS clientCert = some b) (havailable : b.unavailableStatus = 0) :
    Serviceable s routeNS ref b := by
  have hconversion := ref.conversion s routeNS clientCert
  rw [h] at hconversion
  cases hconversion with
  | invalid _ hstatus =>
    rw [hstatus] at havailable
    cases havailable
  | backend hadmitted _ hfilters htls =>
    refine ⟨hadmitted.kind, ?_, ?_, ?_, ?_⟩
    · intro hinternal
      have hport := hadmitted.port hinternal
      rw [validatePort, Bool.and_eq_true, decide_eq_true_eq, decide_eq_true_eq] at hport
      exact hport
    · have hcross := hadmitted.cross
      rw [validateCrossNamespace, Bool.or_eq_true, decide_eq_true_eq] at hcross
      exact hcross
    · rw [Bool.eq_false_iff]
      intro hunsupported
      exact hfilters hunsupported havailable
    · intro hinternal happ
      exact htls hinternal happ havailable

theorem Serviceable.of_alike {ref' : AnyRef} {b' : Backend} (h : Serviceable s routeNS ref' b')
    (halike : AnyRef.Alike ref ref') (htls : b.tls = b'.tls) : Serviceable s routeNS ref b := by
  have htarget : ref'.target = ref.target :=
    congrArg RouteSpec.BackendRef.toBackendObjectReference halike.backendRef
  obtain ⟨hkind, hport, hcross, hfilters, hneeds⟩ := h
  rw [htarget] at hkind hport hcross hneeds
  rw [halike.kind] at hcross
  refine ⟨hkind, hport, hcross, halike.unsupported.symm.trans hfilters, ?_⟩
  rw [htls]
  exact hneeds

/-- The backend comes from the conversion of the reference through the passes. -/
def DerivesFrom (set : RouteSet) (failedRefs grpcFailedRefs : List BackendRefError)
    (routeNS : String) (ref : AnyRef) (b : Backend) : Prop :=
  ∃ ref' clientCert b₀, AnyRef.Alike ref ref' ∧ ref'.convert s routeNS clientCert = some b₀ ∧
    core b ∈ buildFate s set.http set.grpc failedRefs grpcFailedRefs ref.kind (core b₀)

theorem available_backend_serviceable (version : ℤ) (set : RouteSet)
    (failedRefs grpcFailedRefs : List BackendRefError) {c : ConvertedRule}
    (hc : c ∈ (s.buildProxyConfig version set.http set.grpc failedRefs grpcFailedRefs).rules)
    (hb : b ∈ c.rule.backends) (havailable : b.unavailableStatus = 0) :
    ∃ route ∈ set, ComesFrom c route ∧ ∃ ref ∈ ruleRefs route c.provenance.ruleIndex,
      DerivesFrom s set failedRefs grpcFailedRefs route.id.ns ref b ∧
      Serviceable s route.id.ns ref b := by
  obtain ⟨c₀, hc₀, hprov, hrule⟩ := exists_left_of_forall₂
    (rewritesAll_buildProxyConfig s version set.http set.grpc failedRefs grpcFailedRefs) hc
  obtain ⟨route, hroute, hconverted⟩ := (mem_convertedRules s set c₀).mp hc₀
  have hfrom := comesFrom_of_mem_convertAnyRoute s hconverted
  have hfate : core b ∈ (c₀.rule.backends.map core).flatMap
      (buildFate s set.http set.grpc failedRefs grpcFailedRefs c₀.provenance.kind) := by
    rw [← hrule.backends]
    exact List.mem_map_of_mem hb
  obtain ⟨b₀', hb₀', hmem⟩ := List.mem_flatMap.mp hfate
  obtain ⟨b₀, hb₀, rfl⟩ := List.mem_map.mp hb₀'
  have hzero : b₀.unavailableStatus = 0 := by
    by_contra hmarked
    exact (neverRevives_passes s).build set.http set.grpc failedRefs grpcFailedRefs _ (core b₀)
      hmarked (core b) hmem havailable
  have htls : b.tls = b₀.tls := (((keepsTransport_passes s).build set.http set.grpc failedRefs
    grpcFailedRefs c₀.provenance.kind).kept (core b₀) (core b) hmem).1
  obtain ⟨ref, href, ref', clientCert, halike, hconvert⟩ :=
    exists_ref_of_converted s hconverted hb₀
  have hkind : c₀.provenance.kind = ref.kind := by
    rw [hfrom.1]
    cases route <;> obtain ⟨found, -, rfl⟩ := List.mem_map.mp href <;> rfl
  rw [hkind] at hmem
  rw [← hprov] at href
  refine ⟨route, hroute, ?_, ref, href, ⟨ref', clientCert, b₀, halike, hconvert, hmem⟩, ?_⟩
  · unfold ComesFrom
    rw [hprov]
    exact hfrom
  · exact (serviceable_of_convert s hconvert hzero).of_alike s halike htls

end Pipeline

section Handler

variable {lib : GoLib} {idx : ℕ} {upgrade : Bool} {out : OutRequest}

variable {req : ProxyRequest} {result : Router.RouteResult}

theorem of_proxyToBackend (h : proxyToBackend lib req result = .forward idx upgrade out) :
    ∃ b, result.backendIdx = some idx ∧ result.rule.backends[idx]? = some b ∧
      b.unavailableStatus = 0 ∧ parseExternalBackendSentinel lib b.url = none := by
  unfold proxyToBackend at h
  cases hidx : result.backendIdx with
  | none => simp [hidx] at h
  | some chosen =>
    cases hb : result.rule.backends[chosen]? with
    | none => simp [hidx, hb] at h
    | some b =>
      simp only [hidx, hb] at h
      split at h
      · cases h
      · rename_i havailable
        split at h
        · cases h
        · rename_i url hurl
          split at h
          · cases h
          · rename_i hscheme
            have hchosen : chosen = idx := by
              split at h <;> cases h <;> rfl
            subst hchosen
            refine ⟨b, rfl, hb, not_not.mp havailable, ?_⟩
            simp [parseExternalBackendSentinel, hurl, hscheme]

/-- A request is forwarded to the chosen backend, when it is available and its
URL stands for no ExternalBackend. -/
theorem of_serveHTTP {table : Router.RoutingTable} {rand : ℕ → ℕ}
    (h : serveHTTP lib table rand req = .forward idx upgrade out) :
    ∃ result b, Router.route lib table rand req.toRequest = some result ∧
      result.backendIdx = some idx ∧ result.rule.backends[idx]? = some b ∧
      b.unavailableStatus = 0 ∧ parseExternalBackendSentinel lib b.url = none := by
  unfold serveHTTP at h
  split at h
  · rename_i result hresult
    unfold handleMatched at h
    repeat' split at h
    all_goals try cases h
    obtain ⟨b, hb⟩ := of_proxyToBackend h
    exact ⟨result, b, hresult, hb⟩
  · split at h <;> cases h

end Handler

section Guarantee

/-- What is available may be served, no pass revives a backend, and what is
forwarded goes to an available backend. -/
theorem backend_pipeline_fails_closed (s : ProxySyncer) (version : ℤ) (set : RouteSet)
    (failedRefs grpcFailedRefs : List BackendRefError) :
    (∀ c ∈ (s.buildProxyConfig version set.http set.grpc failedRefs grpcFailedRefs).rules,
      ∀ b ∈ c.rule.backends, b.unavailableStatus = 0 →
        ∃ route ∈ set, ComesFrom c route ∧ ∃ ref ∈ ruleRefs route c.provenance.ruleIndex,
          DerivesFrom s set failedRefs grpcFailedRefs route.id.ns ref b ∧
          Serviceable s route.id.ns ref b) ∧
    ((∀ refs, KeepsMarks (s.markFailedRefs refs)) ∧
      (∀ routes grpcRoutes, KeepsMarks
        (expandHeadlessBackends s.objects s.lib s.clusterDomain routes grpcRoutes)) ∧
      (∀ routes grpcRoutes, KeepsMarks
        (markZeroEndpointBackends s.objects s.lib s.clusterDomain routes grpcRoutes)) ∧
      KeepsMarks (resolveExternalBackends s.lib s.objects)) ∧
    ∀ table rand req idx upgrade out, serveHTTP s.lib table rand req = .forward idx upgrade out →
      ∃ result b, Router.route s.lib table rand req.toRequest = some result ∧
        result.backendIdx = some idx ∧ result.rule.backends[idx]? = some b ∧
        b.unavailableStatus = 0 ∧ parseExternalBackendSentinel s.lib b.url = none := by
  have hpasses := neverRevives_passes s
  refine ⟨?_, ⟨?_, ?_, ?_, ?_⟩, ?_⟩
  · intro c hc b hb havailable
    exact available_backend_serviceable s version set failedRefs grpcFailedRefs hc hb havailable
  · intro failedRefs rules
    exact ⟨_, hpasses.failed failedRefs, rewritesAll_markFailedRefs s failedRefs rules⟩
  · intro routes grpcRoutes rules
    exact ⟨_, hpasses.visit (isProbe_headlessFate s.objects s.lib s.clusterDomain) routes grpcRoutes
      rules, rewritesAll_foldl (rewritesAll_expandBackendIfHeadless _ _ _) _ rules⟩
  · intro routes grpcRoutes rules
    exact ⟨_, hpasses.visit (isProbe_zeroEndpointFate s.objects s.lib s.clusterDomain) routes
      grpcRoutes rules, rewritesAll_foldl (rewritesAll_markBackendIfZeroEndpoints _ _ _) _ rules⟩
  · intro rules
    exact ⟨_, hpasses.external, rewritesAll_resolveExternalBackends s.lib s.objects rules⟩
  · intro table rand req idx upgrade out h
    exact of_serveHTTP h

/-- The granted Service has a ready endpoint. -/
def servingSyncer : ProxySyncer :=
  { grantedSyncer with
    objects := { grantedSyncer.objects with
      endpointSlices :=
        [⟨"shop", "web", [⟨some "http", some 8080⟩], [⟨["10.1.0.1"], some true⟩]⟩] } }

def frontRoute : AnyRoute :=
  .http ⟨.of "site" "front", 0, [], [], [{ backendRefs := [webRef none] }]⟩

def frontRequest : ProxyRequest where
  method := "GET"
  host := "www.example.com"
  path := "/"
  header _ := []
  query _ := []

def frontConfig : BuiltConfig :=
  servingSyncer.buildProxyConfig 1 (RouteSet.single frontRoute).http
    (RouteSet.single frontRoute).grpc [] []

theorem front_fails_closed :
    (∃ c ∈ frontConfig.rules, ∃ b ∈ c.rule.backends, b.unavailableStatus = 0 ∧
      ∃ ref ∈ ruleRefs frontRoute c.provenance.ruleIndex, Serviceable servingSyncer "site" ref b) ∧
    ∃ table idx upgrade out,
      Router.compileRoutingTable servingSyncer.lib .stable frontConfig.config = .ok table ∧
      serveHTTP servingSyncer.lib table (fun _ => 0) frontRequest = .forward idx upgrade out ∧
      ∃ result b, Router.route servingSyncer.lib table (fun _ => 0) frontRequest.toRequest =
          some result ∧
        result.backendIdx = some idx ∧ result.rule.backends[idx]? = some b ∧
        b.unavailableStatus = 0 ∧ parseExternalBackendSentinel servingSyncer.lib b.url = none := by
  obtain ⟨hserviceable, -, hforwards⟩ :=
    backend_pipeline_fails_closed servingSyncer 1 (.single frontRoute) [] []
  constructor
  · have havailable : ∃ c ∈ frontConfig.rules, ∃ b ∈ c.rule.backends, b.unavailableStatus = 0 := by
      decide +kernel
    obtain ⟨c, hc, b, hb, hzero⟩ := havailable
    obtain ⟨route, hroute, -, ref, href, -, hrefs⟩ := hserviceable c hc b hb hzero
    obtain rfl := RouteSet.mem_single.mp hroute
    exact ⟨c, hc, b, hb, hzero, ref, href, hrefs⟩
  · have hserved : ((Router.compileRoutingTable servingSyncer.lib .stable
        frontConfig.config).toOption.map fun table =>
          (serveHTTP servingSyncer.lib table (fun _ => 0) frontRequest).head.isSome) = some true := by
      decide +kernel
    obtain ⟨table, htable, hhead⟩ := Option.map_eq_some_iff.mp hserved
    cases hhandled : serveHTTP servingSyncer.lib table (fun _ => 0) frontRequest with
    | forward idx upgrade out =>
      exact ⟨table, idx, upgrade, out, (Fallible.toOption_eq_some _ _).mp htable, hhandled,
        hforwards table _ _ idx upgrade out hhandled⟩
    | _ =>
      rw [hhandled] at hhead
      cases hhead

end Guarantee

end TunnelGateway.FailClosed
