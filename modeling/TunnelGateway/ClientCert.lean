import TunnelGateway.RouteOrigin

/-!
Client certificates in the built configuration. Every TLS leg of a route, to a
backend or to a mirror, carries the certificate of the first parent reference
whose Gateway offers one. The walk that finds it does not ask whether the Gateway
accepts the route.
-/
namespace TunnelGateway.ClientCert

open GoText GatewayApi RouteSpec ProxyConfig ClusterObjects ServiceTarget ClusterResolvers
open RouteConversion ParentBinding BuildConfig BackendFate RouteOrigin FanOut FailedRefs

section Legs

def mirrorTLS (filters : List RouteFilter) : List BackendTLSConfig :=
  filters.filterMap fun filter => filter.requestMirror.bind MirrorConfig.tls

def backendLegs (b : Backend) : List BackendTLSConfig := b.tls.toList ++ mirrorTLS b.filters

/-- The TLS settings a replica receives with a rule. -/
def ruleLegs (rule : RouteRule) : List BackendTLSConfig :=
  mirrorTLS rule.filters ++ rule.backends.flatMap backendLegs

theorem flatMap_backendLegs_core (backends : List Backend) :
    (backends.map core).flatMap backendLegs = backends.flatMap backendLegs := by
  rw [List.flatMap_map]
  rfl

/-- The passes neither add nor lose a leg. -/
theorem mem_ruleLegs_of_rewrites {f : Fate Backend} (hf : KeepsTransport f) {rule rule' : RouteRule}
    (h : Rewrites f rule rule') (tls : BackendTLSConfig) :
    tls ∈ ruleLegs rule' ↔ tls ∈ ruleLegs rule := by
  have hlegs : ∀ b, ∀ d ∈ f b, backendLegs d = backendLegs b := by
    intro b d hd
    obtain ⟨htls, hfilters⟩ := hf.kept b d hd
    rw [backendLegs, htls, hfilters, backendLegs]
  unfold ruleLegs
  rw [h.filters, List.mem_append, List.mem_append, ← flatMap_backendLegs_core rule'.backends,
    ← flatMap_backendLegs_core rule.backends, h.backends, List.flatMap_assoc]
  refine or_congr Iff.rfl ?_
  simp only [List.mem_flatMap]
  constructor
  · intro hmem
    obtain ⟨b, hb, d, hd, htls⟩ := hmem
    exact ⟨b, hb, hlegs b d hd ▸ htls⟩
  · intro hmem
    obtain ⟨b, hb, htls⟩ := hmem
    obtain ⟨d, hd⟩ := List.exists_mem_of_ne_nil _ (hf.ne_nil b)
    exact ⟨b, hb, d, hd, (hlegs b d hd).symm ▸ htls⟩

end Legs

section Stamping

/-- What attaching a certificate does to a leg. -/
def stamp (clientCert : Option ClientCertConfig) (tls : BackendTLSConfig) : BackendTLSConfig :=
  match clientCert with
  | none => tls
  | some cert => { tls with clientCertPEM := cert.certPEM, clientKeyPEM := cert.keyPEM }

theorem attachGatewayClientCert_eq (tls : Option BackendTLSConfig)
    (clientCert : Option ClientCertConfig) :
    attachGatewayClientCert tls clientCert = tls.map (stamp clientCert) := by
  cases tls <;> cases clientCert <;> rfl

variable (lib : GoLib) (resolvers : Resolvers) (ns : String) (clientCert : Option ClientCertConfig)

/-- The leg of a converted filter; only a mirror filter has one. -/
def filterLeg (filter : HTTPRouteFilter) : Option BackendTLSConfig :=
  (convertFilter resolvers ns clientCert filter).1.bind fun f =>
    f.requestMirror.bind MirrorConfig.tls

theorem filterLeg_eq (filter : HTTPRouteFilter) :
    filterLeg resolvers ns clientCert filter =
      if filter.type = .requestMirror then
        filter.requestMirror.bind fun mirror =>
          (validateMirrorBackendRef resolvers mirror ns).bind fun dest =>
            (mirrorConfig resolvers clientCert mirror dest.1 dest.2).tls
      else none := by
  unfold filterLeg convertFilter
  cases filter.type with
  | requestMirror =>
    simp only [convertMirrorFilter]
    cases filter.requestMirror with
    | none => rfl
    | some mirror => cases hdest : validateMirrorBackendRef resolvers mirror ns <;> simp [hdest]
  | requestHeaderModifier => cases filter.requestHeaderModifier <;> rfl
  | responseHeaderModifier => cases filter.responseHeaderModifier <;> rfl
  | requestRedirect => cases filter.requestRedirect <;> rfl
  | urlRewrite => cases filter.urlRewrite <;> rfl
  | cors => cases filter.cors <;> rfl
  | extensionRef => rfl
  | externalAuth => rfl
  | other value => rfl

theorem filterLeg_stamp (filter : HTTPRouteFilter) :
    filterLeg resolvers ns clientCert filter =
      (filterLeg resolvers ns none filter).map (stamp clientCert) := by
  rw [filterLeg_eq, filterLeg_eq]
  split
  · cases filter.requestMirror with
    | none => rfl
    | some mirror =>
      simp only [Option.bind_some]
      cases validateMirrorBackendRef resolvers mirror ns with
      | none => rfl
      | some dest =>
        simp only [mirrorConfig, attachGatewayClientCert_eq, Option.map_map, Option.bind_some]
        rfl
  · rfl

theorem mirrorTLS_collectFilters (filters : List HTTPRouteFilter) :
    mirrorTLS (collectFilters (filters.map (convertFilter resolvers ns clientCert))).1 =
      filters.filterMap (filterLeg resolvers ns clientCert) := by
  simp only [mirrorTLS, collectFilters, List.filterMap_map, List.filterMap_filterMap]
  rfl

theorem mirrorTLS_convertFilter (filters : List HTTPRouteFilter) :
    mirrorTLS (collectFilters (filters.map (convertFilter resolvers ns clientCert))).1 =
      (mirrorTLS (collectFilters (filters.map (convertFilter resolvers ns none))).1).map
        (stamp clientCert) := by
  rw [mirrorTLS_collectFilters, mirrorTLS_collectFilters, List.map_filterMap]
  congr 1
  funext filter
  exact filterLeg_stamp resolvers ns clientCert filter

theorem mirrorTLS_convertGRPCFilter (filters : List GRPCRouteFilter) :
    mirrorTLS (collectFilters (filters.map convertGRPCFilter)).1 = [] := by
  rw [mirrorTLS, List.filterMap_eq_nil_iff]
  intro f hf
  simp only [collectFilters, List.mem_filterMap, List.mem_map] at hf
  obtain ⟨_, ⟨filter, -, rfl⟩, hconv⟩ := hf
  unfold convertGRPCFilter at hconv
  cases htype : filter.type <;> rw [htype] at hconv
  case requestHeaderModifier | responseHeaderModifier =>
    obtain ⟨m, -, rfl⟩ := Option.map_eq_some_iff.mp hconv
    rfl
  all_goals cases hconv

theorem legs_applyBackendFilters (b b₀ : Backend) (filters : List HTTPRouteFilter)
    (htls : b.tls = b₀.tls.map (stamp clientCert)) :
    backendLegs (applyBackendFilters resolvers ns clientCert b filters) =
      (backendLegs (applyBackendFilters resolvers ns none b₀ filters)).map (stamp clientCert) := by
  have hfilters := mirrorTLS_convertFilter resolvers ns clientCert filters
  simp only [backendLegs, applyBackendFilters, applyFilters, hfilters, htls]
  cases b₀.tls <;> rfl

theorem legs_applyGRPCBackendTransport (b : Backend) (filters : List GRPCRouteFilter)
    (svcNamespace serviceName : String) (port : ℤ) :
    backendLegs (applyGRPCBackendTransport resolvers clientCert (applyGRPCBackendFilters b filters)
        svcNamespace serviceName port) =
      ((resolveBackendTLS resolvers svcNamespace serviceName port b.url).1.map
        (stamp clientCert)).toList := by
  simp only [applyGRPCBackendTransport, attachGatewayClientCert_eq]
  split_ifs <;>
    simp [backendLegs, applyGRPCBackendFilters, applyFilters, mirrorTLS_convertGRPCFilter]

/-- The legs of an optional backend. -/
def optionLegs (b : Option Backend) : List BackendTLSConfig := (b.map backendLegs).getD []

theorem legs_markInvalidBackend {weight : ℤ} {name svcNamespace : String} {port : ℤ}
    {clusterDomain : String} :
    optionLegs (markInvalidBackend weight name svcNamespace port clusterDomain) = [] := by
  unfold markInvalidBackend
  split <;> rfl

theorem legs_convertCommon {ref : RouteSpec.BackendRef}
    {external external' : ℤ → String → String → Backend}
    {service service' : Backend → String → String → ℤ → Backend}
    (hexternal : ∀ weight svcNamespace serviceName,
      backendLegs (external weight svcNamespace serviceName) =
        (backendLegs (external' weight svcNamespace serviceName)).map (stamp clientCert))
    (hservice : ∀ b svcNamespace serviceName port,
      backendLegs (service b svcNamespace serviceName port) =
        (backendLegs (service' b svcNamespace serviceName port)).map (stamp clientCert)) :
    optionLegs (convertCommon resolvers ns ref external service) =
      (optionLegs (convertCommon resolvers ns ref external' service')).map (stamp clientCert) := by
  unfold convertCommon
  cases hcommon : resolveCommonBackendRef resolvers ref ns with
  | dropped => rfl
  | final b =>
    -- A final answer is always an invalid backend.
    simp only [resolveCommonBackendRef, validateCommonBackendRef] at hcommon
    split_ifs at hcommon
    all_goals
      cases hcommon
      simp [legs_markInvalidBackend]
  | external weight svcNamespace serviceName =>
    dsimp only
    split
    · simp [legs_markInvalidBackend]
    · exact hexternal weight svcNamespace serviceName
  | resolved b svcNamespace serviceName port => exact hservice b svcNamespace serviceName port

theorem legs_convertBackendRef (ref : HTTPBackendRef) :
    optionLegs (convertBackendRef lib resolvers ns clientCert ref) =
      (optionLegs (convertBackendRef lib resolvers ns none ref)).map (stamp clientCert) := by
  refine legs_convertCommon resolvers ns clientCert
    (fun _ _ _ => legs_applyBackendFilters resolvers ns clientCert _ _ ref.filters rfl)
    fun b _ _ _ => legs_applyBackendFilters resolvers ns clientCert _ _ ref.filters ?_
  simp only [applyBackendTransport, attachGatewayClientCert_eq, Option.map_map]
  rfl

theorem legs_convertGRPCBackendRef (ref : GRPCBackendRef) :
    optionLegs (convertGRPCBackendRef lib resolvers ns clientCert ref) =
      (optionLegs (convertGRPCBackendRef lib resolvers ns none ref)).map (stamp clientCert) := by
  refine legs_convertCommon resolvers ns clientCert ?_ ?_
  · intro weight svcNamespace serviceName
    simp [backendLegs, applyGRPCBackendFilters, applyFilters, mirrorTLS_convertGRPCFilter]
  · intro b svcNamespace serviceName port
    rw [legs_applyGRPCBackendTransport, legs_applyGRPCBackendTransport]
    cases (resolveBackendTLS resolvers svcNamespace serviceName port b.url).1 <;> rfl

theorem flatMap_legs_filterMap {α : Type*} (convert : α → Option Backend) (refs : List α) :
    (refs.filterMap convert).flatMap backendLegs = refs.flatMap fun ref => optionLegs (convert ref) := by
  induction refs with
  | nil => rfl
  | cons ref rest ih =>
    cases hconv : convert ref <;> simp [hconv, ih, optionLegs]

end Stamping

section Policies

variable {lib : GoLib} {resolvers : Resolvers} {ns : String}

/-- The settings of a policy, as the resolver gave them. -/
def FromPolicy (resolvers : Resolvers) (tls : BackendTLSConfig) : Prop :=
  ∃ ns name port, resolvers.tlsResolver ns name port = some tls

variable {tls : BackendTLSConfig} {serviceName svcNamespace url : String} {port : ℤ}
  {hostnames : List String}

theorem fromPolicy_resolveBackendTLS
    (h : (resolveBackendTLS resolvers svcNamespace serviceName port url).1 = some tls) :
    FromPolicy resolvers tls := by
  unfold resolveBackendTLS at h
  split at h
  · cases h
  · rename_i found hfound
    cases h
    exact ⟨_, _, _, hfound⟩

theorem fromPolicy_attach (h : attachGatewayClientCert
      (resolveBackendTLS resolvers svcNamespace serviceName port url).1 none = some tls) :
    FromPolicy resolvers tls := by
  rw [attachGatewayClientCert_eq] at h
  obtain ⟨found, hfound, rfl⟩ := Option.map_eq_some_iff.mp h
  exact fromPolicy_resolveBackendTLS hfound

theorem fromPolicy_mirrorTLS {filters : List HTTPRouteFilter}
    (h : tls ∈ mirrorTLS (collectFilters (filters.map (convertFilter resolvers ns none))).1) :
    FromPolicy resolvers tls := by
  rw [mirrorTLS_collectFilters, List.mem_filterMap] at h
  obtain ⟨filter, -, hleg⟩ := h
  rw [filterLeg_eq] at hleg
  split at hleg
  · obtain ⟨mirror, -, hleg⟩ := Option.bind_eq_some_iff.mp hleg
    obtain ⟨dest, -, hleg⟩ := Option.bind_eq_some_iff.mp hleg
    exact fromPolicy_attach hleg
  · cases hleg

theorem mem_optionLegs {b : Option Backend} (h : tls ∈ optionLegs b) :
    ∃ b', b = some b' ∧ tls ∈ backendLegs b' := by
  cases b with
  | none => cases h
  | some b => exact ⟨b, rfl, h⟩

theorem not_mem_legs_of_markInvalidBackend {weight : ℤ} {name domain : String} {b : Backend}
    (h : markInvalidBackend weight name svcNamespace port domain = some b) : tls ∉ backendLegs b := by
  have hlegs : optionLegs (some b) = [] := h ▸ legs_markInvalidBackend
  exact List.eq_nil_iff_forall_not_mem.mp hlegs tls

theorem fromPolicy_convertBackendRef {ref : HTTPBackendRef}
    (h : tls ∈ optionLegs (convertBackendRef lib resolvers ns none ref)) :
    FromPolicy resolvers tls := by
  obtain ⟨b, hb, htls⟩ := mem_optionLegs h
  cases origin_of_convertBackendRef hb with
  | invalid hmark => exact absurd htls (not_mem_legs_of_markInvalidBackend hmark)
  | external => exact fromPolicy_mirrorTLS htls
  | service =>
    rcases List.mem_append.mp htls with htls | hmirror
    · exact fromPolicy_attach (Option.mem_toList.mp htls)
    · exact fromPolicy_mirrorTLS hmirror

theorem fromPolicy_convertGRPCBackendRef {ref : GRPCBackendRef}
    (h : tls ∈ optionLegs (convertGRPCBackendRef lib resolvers ns none ref)) :
    FromPolicy resolvers tls := by
  obtain ⟨b, hb, htls⟩ := mem_optionLegs h
  cases origin_of_convertGRPCBackendRef hb with
  | invalid hmark => exact absurd htls (not_mem_legs_of_markInvalidBackend hmark)
  | external =>
    simp [backendLegs, applyGRPCBackendFilters, applyFilters, mirrorTLS_convertGRPCFilter] at htls
  | service =>
    rw [legs_applyGRPCBackendTransport, Option.mem_toList] at htls
    obtain ⟨found, hfound, rfl⟩ := Option.map_eq_some_iff.mp htls
    exact fromPolicy_resolveBackendTLS hfound

theorem fromPolicy_convertHTTPRouteRule {rule : HTTPRouteRule}
    (h : tls ∈ ruleLegs (convertHTTPRouteRule lib resolvers ns hostnames none rule)) :
    FromPolicy resolvers tls := by
  simp only [ruleLegs, convertHTTPRouteRule, flatMap_legs_filterMap] at h
  rcases List.mem_append.mp h with hmirror | hbackend
  · exact fromPolicy_mirrorTLS hmirror
  · obtain ⟨ref, -, htls⟩ := List.mem_flatMap.mp hbackend
    exact fromPolicy_convertBackendRef htls

end Policies

section Offers

variable (s : ProxySyncer)

/-- The reference is read as one to a Gateway. -/
def namesGateway (ref : ParentReference) : Bool :=
  !(ref.group.any fun group => group ≠ "" && group ≠ groupName) &&
    !(ref.kind.any fun kind => kind ≠ "" && kind ≠ kindGateway)

/-- The Gateway is managed and its client certificate resolves. -/
def Offers (routeNamespace : String) (ref : ParentReference) (cert : ClientCertConfig) : Prop :=
  namesGateway ref = true ∧ ∃ gateway,
    s.objects.getGateway (ref.ns.getD routeNamespace) ref.name = some gateway ∧
      gatewayManagedByController s.objects gateway s.controllerName = true ∧
      loadGatewayClientCertPEM s.objects gateway = .ok (some cert)

/-- The certificate of the first reference that offers one. -/
def FirstOffer (route : AnyRoute) (cert : ClientCertConfig) : Prop :=
  ∃ earlier ref later, route.parentRefs = earlier ++ ref :: later ∧
    (∀ ref' ∈ earlier, ∀ cert', ¬ Offers s route.id.ns ref' cert') ∧
    Offers s route.id.ns ref cert

variable {cert : ClientCertConfig} {routeNamespace : String}

theorem offers_iff {ref : ParentReference} :
    Offers s routeNamespace ref cert ↔ namesGateway ref = true ∧
      s.gatewayCertResolver (ref.ns.getD routeNamespace) ref.name = some cert := by
  unfold Offers ProxySyncer.gatewayCertResolver newGatewayClientCertResolver
  cases s.objects.getGateway (ref.ns.getD routeNamespace) ref.name with
  | none => simp
  | some gateway =>
    cases hmanaged : gatewayManagedByController s.objects gateway s.controllerName with
    | false => simp [hmanaged]
    | true => cases hload : loadGatewayClientCertPEM s.objects gateway <;> simp [hload]

theorem resolveFirst_eq_findSome (resolver : String → String → Option ClientCertConfig)
    (routeNamespace : String) (refs : List ParentReference) :
    resolveFirstParentClientCertFromRefs resolver routeNamespace refs = refs.findSome? fun ref =>
      if namesGateway ref then resolver (ref.ns.getD routeNamespace) ref.name else none := by
  induction refs with
  | nil => rfl
  | cons ref rest ih =>
    rw [resolveFirstParentClientCertFromRefs, List.findSome?_cons, ih]
    unfold namesGateway
    split_ifs with hgroup hkind <;> simp_all
    cases resolver (ref.ns.getD routeNamespace) ref.name <;> rfl

theorem resolveFirst_eq_some_iff {refs : List ParentReference} :
    resolveFirstParentClientCertFromRefs s.gatewayCertResolver routeNamespace refs = some cert ↔
      ∃ earlier ref later, refs = earlier ++ ref :: later ∧
        (∀ ref' ∈ earlier, ∀ cert', ¬ Offers s routeNamespace ref' cert') ∧
        Offers s routeNamespace ref cert := by
  simp only [resolveFirst_eq_findSome, List.findSome?_eq_some_iff, offers_iff,
    Option.ite_none_right_eq_some, Option.eq_none_iff_forall_ne_some, ne_eq, and_comm]

/-- Neither half of a resolved certificate is empty. -/
theorem ne_nil_of_load {objects : Objects} {gateway : Gateway}
    (h : loadGatewayClientCertPEM objects gateway = .ok (some cert)) :
    cert.certPEM ≠ [] ∧ cert.keyPEM ≠ [] := by
  unfold loadGatewayClientCertPEM at h
  grind

end Offers

section Confinement

variable (s : ProxySyncer)

def bindingInfo (route : AnyRoute) (ref : ParentReference) : RouteBinding.RouteInfo :=
  match route with
  | .http route => routeInfo .HTTPRoute route ref
  | .grpc route => routeInfo .GRPCRoute route ref

/-- The certificate is that of a managed Gateway which accepts the route. -/
def AcceptedOffer (route : AnyRoute) (cert : ClientCertConfig) : Prop :=
  ∃ ref ∈ route.parentRefs, ∃ binding gateway,
    resolveRouteParentBinding s.objects.toCluster s.lib s.controllerName ref
        (bindingInfo route ref) = .ok (some binding) ∧
      binding.result.accepted = true ∧
      s.objects.getGateway binding.gateway.ns binding.gateway.name = some gateway ∧
      loadGatewayClientCertPEM s.objects gateway = .ok (some cert)

/-- Some backend or mirror of the route has a TLS policy. -/
def HasTLSLeg (route : AnyRoute) : Prop :=
  ∃ c ∈ convertAnyRoute s (fun _ _ => none) route, ruleLegs c.rule ≠ []

/-- Every client certificate in a rule of the route is one of an accepting Gateway. -/
def CertsConfined (rules : List ConvertedRule) (route : AnyRoute) : Prop :=
  ∀ c ∈ rules, ComesFrom c route → ∀ tls ∈ ruleLegs c.rule,
    (tls.clientCertPEM ≠ [] ∨ tls.clientKeyPEM ≠ []) →
      AcceptedOffer s route ⟨tls.clientCertPEM, tls.clientKeyPEM⟩

def walkedCert (route : AnyRoute) : Option ClientCertConfig :=
  resolveFirstParentClientCertFromRefs s.gatewayCertResolver route.id.ns route.parentRefs

theorem resolveFirst_none (ns : String) (refs : List ParentReference) :
    resolveFirstParentClientCertFromRefs (fun _ _ => none) ns refs = none := by
  simp [resolveFirst_eq_findSome]

/-- The rules of a route, beside the same rules without a certificate. -/
theorem legs_convertAnyRoute (route : AnyRoute) :
    List.Forall₂ (fun c c₀ => ruleLegs c.rule = (ruleLegs c₀.rule).map (stamp (walkedCert s route)))
      (convertAnyRoute s s.gatewayCertResolver route)
      (convertAnyRoute s (fun _ _ => none) route) := by
  rw [List.forall₂_iff_get]
  cases route with
  | http route =>
    obtain ⟨hid, hrefs⟩ := prepareHTTPRoute_frame s route
    refine ⟨by simp [convertAnyRoute, convertRoute], ?_⟩
    intro i hi hi₀
    simp only [convertAnyRoute, convertRoute, List.get_eq_getElem, List.getElem_mapIdx,
      resolveFirst_none, hid, hrefs]
    simp [ruleLegs, convertHTTPRouteRule, flatMap_legs_filterMap,
      List.map_flatMap, ← legs_convertBackendRef, ← mirrorTLS_convertFilter]
    rfl
  | grpc route =>
    obtain ⟨hid, hrefs⟩ := prepareGRPCRoute_frame s route
    refine ⟨by simp [convertAnyRoute, convertRoute], ?_⟩
    intro i hi hi₀
    simp only [convertAnyRoute, convertRoute, List.get_eq_getElem, List.getElem_mapIdx,
      resolveFirst_none, hid, hrefs]
    simp [ruleLegs, convertGRPCRouteRule, flatMap_legs_filterMap,
      List.map_flatMap, ← legs_convertGRPCBackendRef, mirrorTLS_convertGRPCFilter]
    rfl

/-- A policy alone brings no certificate. -/
theorem no_clientCert_of_leg {route : AnyRoute} {c₀ : ConvertedRule}
    (hc₀ : c₀ ∈ convertAnyRoute s (fun _ _ => none) route) {tls : BackendTLSConfig}
    (htls : tls ∈ ruleLegs c₀.rule) : tls.clientCertPEM = [] ∧ tls.clientKeyPEM = [] := by
  cases route with
  | http route =>
    obtain ⟨i, rule, -, rfl⟩ := (mem_convertRoute c₀).mp hc₀
    rw [resolveFirst_none] at htls
    obtain ⟨ns, name, port, hpolicy⟩ := fromPolicy_convertHTTPRouteRule htls
    exact newBackendTLSResolver_no_clientCert hpolicy
  | grpc route =>
    obtain ⟨i, rule, -, rfl⟩ := (mem_convertRoute c₀).mp hc₀
    rw [resolveFirst_none] at htls
    simp only [ruleLegs, convertGRPCRouteRule, flatMap_legs_filterMap,
      mirrorTLS_convertGRPCFilter] at htls
    obtain ⟨ref, -, htls⟩ := List.mem_flatMap.mp htls
    obtain ⟨ns, name, port, hpolicy⟩ := fromPolicy_convertGRPCBackendRef htls
    exact newBackendTLSResolver_no_clientCert hpolicy

/-- The legs of a route in the built configuration are its policies' settings
with the certificate of the walk. -/
theorem mem_builtLegs_iff (set : RouteSet) (version : ℤ)
    (failedRefs grpcFailedRefs : List BackendRefError) {route : AnyRoute} (hroute : route ∈ set)
    (tls : BackendTLSConfig) :
    (∃ c ∈ (s.buildProxyConfig version set.http set.grpc failedRefs grpcFailedRefs).rules,
        ComesFrom c route ∧ tls ∈ ruleLegs c.rule) ↔
      ∃ c₀ ∈ convertAnyRoute s (fun _ _ => none) route, ∃ plain ∈ ruleLegs c₀.rule,
        tls = stamp (walkedCert s route) plain := by
  have hbuilt := rewritesAll_buildProxyConfig s version set.http set.grpc failedRefs grpcFailedRefs
  constructor
  · intro h
    obtain ⟨c, hc, hfrom, htls⟩ := h
    obtain ⟨c₁, hc₁, hprov, hrule⟩ := exists_left_of_forall₂ hbuilt hc
    rw [mem_ruleLegs_of_rewrites ((keepsTransport_passes s).build _ _ _ _ _) hrule] at htls
    have hfrom₁ : ComesFrom c₁ route := by
      unfold ComesFrom
      rw [← hprov]
      exact hfrom
    have hmem := mem_convertAnyRoute_of_comesFrom s hroute hc₁ hfrom₁
    obtain ⟨c₀, hc₀, hlegs⟩ := exists_right_of_forall₂ (legs_convertAnyRoute s route) hmem
    rw [hlegs] at htls
    obtain ⟨plain, hplain, rfl⟩ := List.mem_map.mp htls
    exact ⟨c₀, hc₀, plain, hplain, rfl⟩
  · intro h
    obtain ⟨c₀, hc₀, plain, hplain, rfl⟩ := h
    obtain ⟨c₁, hc₁, hlegs⟩ := exists_left_of_forall₂ (legs_convertAnyRoute s route) hc₀
    have hconverted := (mem_convertedRules s set c₁).mpr ⟨route, hroute, hc₁⟩
    obtain ⟨c, hc, hprov, hrule⟩ := exists_right_of_forall₂ hbuilt hconverted
    have hfrom : ComesFrom c route := by
      unfold ComesFrom
      rw [hprov]
      exact comesFrom_of_mem_convertAnyRoute s hc₁
    refine ⟨c, hc, hfrom, ?_⟩
    rw [mem_ruleLegs_of_rewrites ((keepsTransport_passes s).build _ _ _ _ _) hrule, hlegs]
    exact List.mem_map_of_mem hplain

/-- The certificates are confined exactly when the first offer is one of an
accepting Gateway, or no leg has a policy. -/
theorem client_certs_confined_iff (set : RouteSet) (version : ℤ)
    (failedRefs grpcFailedRefs : List BackendRefError) {route : AnyRoute} (hroute : route ∈ set) :
    CertsConfined s
        (s.buildProxyConfig version set.http set.grpc failedRefs grpcFailedRefs).rules route ↔
      ∀ cert, FirstOffer s route cert → HasTLSLeg s route → AcceptedOffer s route cert := by
  have hlegs := mem_builtLegs_iff s set version failedRefs grpcFailedRefs hroute
  constructor
  · intro hconfined cert hfirst hleg
    have hwalked : walkedCert s route = some cert := (resolveFirst_eq_some_iff s).mpr hfirst
    obtain ⟨c₀, hc₀, hne⟩ := hleg
    obtain ⟨plain, hplain⟩ := List.exists_mem_of_ne_nil _ hne
    obtain ⟨c, hc, hfrom, htls⟩ := (hlegs _).mpr ⟨c₀, hc₀, plain, hplain, rfl⟩
    rw [hwalked] at htls
    obtain ⟨-, -, -, -, -, -, gateway, -, -, hload⟩ := hfirst
    exact hconfined c hc hfrom _ htls (.inl (ne_nil_of_load hload).1)
  · intro hoffer c hc hfrom tls htls hcarries
    obtain ⟨c₀, hc₀, plain, hplain, rfl⟩ := (hlegs tls).mp ⟨c, hc, hfrom, htls⟩
    cases hwalked : walkedCert s route with
    | none =>
      -- Without an offer the leg is the policy's own, and carries nothing.
      obtain ⟨hcert, hkey⟩ := no_clientCert_of_leg s hc₀ hplain
      rw [hwalked] at hcarries
      rcases hcarries with h | h
      · exact absurd hcert h
      · exact absurd hkey h
    | some cert =>
      exact hoffer cert ((resolveFirst_eq_some_iff s).mp hwalked)
        ⟨c₀, hc₀, List.ne_nil_of_mem hplain⟩

end Confinement

section Examples

def certRef : SecretObjectReference := ⟨none, none, "client", none⟩

/-- Takes routes of its own namespace only. -/
def vaultGateway : Gateway :=
  .withListener (.of "vault" "gw") "cloudflare" ⟨"web", none, 80, .http, none⟩ (some certRef)

def appsGateway : Gateway :=
  .withListener (.of "apps" "edge") "cloudflare" ⟨"web", none, 80, .http, none⟩ (some certRef)

def tlsSecret (id : NamespacedName) (key : List UInt8) : Secret :=
  ⟨id, secretTypeTLS, [1], key⟩

def webPolicy : BackendTLSPolicy where
  id := .of "apps" "web-tls"
  creationTimestamp := 0
  targetRefs := [⟨"Service", "web", none⟩]
  caCertificateRefs := [⟨"", "ConfigMap", "ca"⟩]
  hostname := "web.apps"
  subjectAltNames := []

def webService : Service :=
  ⟨.of "apps" "web", .other "ClusterIP", "10.0.0.1",
    [⟨"http", 80, .number 8080, none⟩]⟩

def webSlice : EndpointSlice :=
  ⟨"apps", "web", [⟨some "http", some 8080⟩], [⟨["10.1.0.1"], some true⟩]⟩

def certSyncer : ProxySyncer where
  objects :=
    { gateways := [vaultGateway, appsGateway]
      listenerSets := []
      gatewayClasses := [⟨"cloudflare", "example.com/tunnel"⟩]
      namespaces := []
      labelSelectorAsSelector := fun _ => none
      secrets := [tlsSecret (.of "vault" "client") [7],
        tlsSecret (.of "apps" "client") [8]]
      services := [webService]
      endpointSlices := [webSlice]
      configMaps := [⟨.of "apps" "ca", some "CA"⟩]
      backendTLSPolicies := [webPolicy]
      parsesCABundle := fun _ => true
      x509KeyPair := fun _ _ => true }
  lib := .literal
  clusterDomain := "cluster.local"
  controllerName := "example.com/tunnel"

def webRule : HTTPRouteRule := { backendRefs := [{ name := "web" }] }

def routeWithParents (refs : List ParentReference) : HTTPRoute :=
  ⟨.of "apps" "site", 0, refs, [], [webRule]⟩

def vaultRef : ParentReference := ⟨none, none, some "vault", "gw", none, none⟩
def appsRef : ParentReference := ⟨none, none, none, "edge", none, none⟩

/-- The certificate of the Gateway that a reference binds the route to. -/
def acceptedCert (s : ProxySyncer) (route : AnyRoute) (ref : ParentReference) :
    Option ClientCertConfig :=
  match resolveRouteParentBinding s.objects.toCluster s.lib s.controllerName ref
      (bindingInfo route ref) with
  | .ok (some binding) =>
      if binding.result.accepted then
        (s.objects.getGateway binding.gateway.ns binding.gateway.name).bind fun gateway =>
          match loadGatewayClientCertPEM s.objects gateway with
          | .ok cert => cert
          | .error _ => none
      else none
  | _ => none

theorem acceptedOffer_iff (s : ProxySyncer) (route : AnyRoute) (cert : ClientCertConfig) :
    AcceptedOffer s route cert ↔
      ∃ ref ∈ route.parentRefs, acceptedCert s route ref = some cert := by
  refine exists_congr fun ref => and_congr_right fun _ => ?_
  unfold acceptedCert
  constructor
  · intro h
    obtain ⟨binding, gateway, hbinding, haccepted, hgateway, hload⟩ := h
    simp [hbinding, haccepted, hgateway, hload]
  · intro h
    split at h
    · rename_i binding hbinding
      split at h
      · rename_i haccepted
        obtain ⟨gateway, hgateway, hload⟩ := Option.bind_eq_some_iff.mp h
        split at hload
        · rename_i found hfound
          exact ⟨binding, gateway, hbinding, haccepted, hgateway, hload ▸ hfound⟩
        · cases hload
      · cases h
    · cases h

def strayRoute : AnyRoute := .http (routeWithParents [vaultRef, appsRef])

/-- A first parent that rejects the route still gives its key to the leg. -/
theorem rejected_parent_key_in_config :
    (resolveRouteParentBinding certSyncer.objects.toCluster .literal "example.com/tunnel" vaultRef
        (bindingInfo strayRoute vaultRef)).toOption.map
      (Option.map fun binding => binding.result.accepted) = some (some false) ∧
    ¬ CertsConfined certSyncer
      (certSyncer.buildProxyConfig 1 [routeWithParents [vaultRef, appsRef]] [] [] []).rules
      strayRoute := by
  refine ⟨by decide +kernel, ?_⟩
  intro hconfined
  have hleak : ∃ c ∈ (certSyncer.buildProxyConfig 1 [routeWithParents [vaultRef, appsRef]]
      [] [] []).rules, ComesFrom c strayRoute ∧
        ⟨"CA\n", "web.apps", [], [], [1], [7]⟩ ∈ ruleLegs c.rule := by decide +kernel
  obtain ⟨c, hc, hfrom, htls⟩ := hleak
  have hoffer := hconfined c hc hfrom _ htls (.inl (List.cons_ne_nil _ _))
  have hnone : ∀ ref ∈ strayRoute.parentRefs,
      acceptedCert certSyncer strayRoute ref ≠ some ⟨[1], [7]⟩ := by decide +kernel
  obtain ⟨ref, href, hcert⟩ := (acceptedOffer_iff certSyncer strayRoute _).mp hoffer
  exact hnone ref href hcert

def homeRoute : AnyRoute := .http (routeWithParents [appsRef])

theorem homeRoute_certs_confined :
    homeRoute ∈ RouteSet.single homeRoute ∧ HasTLSLeg certSyncer homeRoute ∧
    walkedCert certSyncer homeRoute = some ⟨[1], [8]⟩ ∧
    CertsConfined certSyncer
      (certSyncer.buildProxyConfig 1 [routeWithParents [appsRef]] [] [] []).rules homeRoute := by
  have hmem : homeRoute ∈ RouteSet.single homeRoute := RouteSet.mem_single.mpr rfl
  have hleg : ∃ c ∈ convertAnyRoute certSyncer (fun _ _ => none) homeRoute,
      ruleLegs c.rule ≠ [] := by decide +kernel
  have hwalked : walkedCert certSyncer homeRoute = some ⟨[1], [8]⟩ := by decide +kernel
  refine ⟨hmem, hleg, hwalked,
    (client_certs_confined_iff certSyncer (RouteSet.single homeRoute) 1 [] [] hmem).mpr ?_⟩
  intro cert hfirst _
  have hcert : walkedCert certSyncer homeRoute = some cert :=
    (resolveFirst_eq_some_iff certSyncer).mpr hfirst
  rw [hwalked, Option.some.injEq] at hcert
  rw [← hcert, acceptedOffer_iff]
  decide +kernel

end Examples

end TunnelGateway.ClientCert
