import TunnelGateway.ServiceTarget
import Mathlib.Data.List.Sort

/-!
Conversion of routes into rules of the proxy configuration. HTTPRoutes and
GRPCRoutes share the loop over routes, the resolution of references and the
header modifiers; each kind has its own matches, filters and transport. The
findings the converter reports for status conditions are left out.
-/
namespace TunnelGateway.RouteConversion

open GoText Hostname GatewayApi RouteSpec ProxyConfig ServiceTarget

section Filters

variable (resolvers : Resolvers)

def convertHeaderModifier (modifier : HTTPHeaderFilter) : HeaderModifier where
  set := modifier.set.map fun header => ⟨header.name, header.value⟩
  add := modifier.add.map fun header => ⟨header.name, header.value⟩
  remove := modifier.remove

/-- A missing payload skips the filter, here and in the filters below. -/
def convertRequestHeaderFilter (modifier : Option HTTPHeaderFilter) : Option RouteFilter :=
  modifier.map fun m =>
    { type := .requestHeaderModifier, requestHeaderModifier := some (convertHeaderModifier m) }

def convertResponseHeaderFilter (modifier : Option HTTPHeaderFilter) : Option RouteFilter :=
  modifier.map fun m =>
    { type := .responseHeaderModifier, responseHeaderModifier := some (convertHeaderModifier m) }

def convertRedirectPath (pathModifier : HTTPPathModifier) : Option RedirectPath :=
  match pathModifier.type with
  | .fullPath => pathModifier.replaceFullPath.map (⟨.replaceFullPath, ·⟩)
  | .prefixMatch => pathModifier.replacePrefixMatch.map (⟨.replacePrefixMatch, ·⟩)
  | .other _ => none

def convertRedirectConfig (redirect : HTTPRequestRedirectFilter) : RedirectConfig where
  scheme := redirect.scheme
  hostname := redirect.hostname
  port := redirect.port
  path := redirect.path.bind convertRedirectPath
  statusCode := redirect.statusCode

def convertRedirectFilter (redirect : Option HTTPRequestRedirectFilter) : Option RouteFilter :=
  redirect.map fun r =>
    { type := .requestRedirect, requestRedirect := some (convertRedirectConfig r) }

def convertURLRewritePath (pathModifier : HTTPPathModifier) : Option URLRewritePath :=
  match pathModifier.type with
  | .fullPath =>
      some { type := .replaceFullPath, replaceFullPath := pathModifier.replaceFullPath }
  | .prefixMatch =>
      some { type := .replacePrefixMatch, replacePrefixMatch := pathModifier.replacePrefixMatch }
  | .other _ => none

def convertURLRewrite (rewrite : HTTPURLRewriteFilter) : URLRewriteConfig where
  hostname := rewrite.hostname
  path := rewrite.path.bind convertURLRewritePath

def convertURLRewriteFilter (rewrite : Option HTTPURLRewriteFilter) : Option RouteFilter :=
  rewrite.map fun r => { type := .urlRewrite, urlRewrite := some (convertURLRewrite r) }

def convertCORSFilter (cors : Option HTTPCORSFilter) : Option RouteFilter :=
  cors.map fun c =>
    { type := .cors
      cors := some {
        allowOrigins := c.allowOrigins
        allowCredentials := c.allowCredentials.getD false
        allowMethods := c.allowMethods
        allowHeaders := c.allowHeaders
        exposeHeaders := c.exposeHeaders
        maxAge := c.maxAge } }

def clampPercent (value : ℤ) : ℤ := if value < 0 then 0 else if value > 100 then 100 else value

/-- Go's integer division truncates towards zero. -/
def mirrorPercent (mirror : HTTPRequestMirrorFilter) : Option ℤ :=
  match mirror.percent with
  | some percent => some (clampPercent percent)
  | none =>
      match mirror.fraction with
      | none => none
      | some fraction =>
          let denominator := fraction.denominator.getD 100
          if denominator ≤ 0 then none
          else some (clampPercent ((fraction.numerator * 100).tdiv denominator))

/-- Namespace and port of a mirror destination that passes the checks. -/
def validateMirrorBackendRef (mirror : HTTPRequestMirrorFilter) (ns : String) :
    Option (String × ℤ) :=
  let mirrorPort := refPort mirror.backendRef
  let mirrorNS := refNamespace mirror.backendRef ns
  if !isMirrorableBackendRef mirror.backendRef then none
  else if !validatePort mirrorPort then none
  else if !validateCrossNamespace resolvers mirrorNS ns mirror.backendRef then none
  else some (mirrorNS, mirrorPort)

def mirrorConfig (clientCert : Option ClientCertConfig) (mirror : HTTPRequestMirrorFilter)
    (mirrorNS : String) (mirrorPort : ℤ) : MirrorConfig :=
  let mirrorURL := buildServiceURL mirror.backendRef.name mirrorNS mirrorPort
    (backendDomain mirror.backendRef resolvers.clusterDomain)
  let (tls, url) :=
    resolveBackendTLS resolvers mirrorNS mirror.backendRef.name mirrorPort mirrorURL
  { backendURL := url
    percent := mirrorPercent mirror
    tls := attachGatewayClientCert tls clientCert }

def convertMirrorFilter (mirror : Option HTTPRequestMirrorFilter) (ns : String)
    (clientCert : Option ClientCertConfig) : Option RouteFilter :=
  mirror.bind fun m =>
    (validateMirrorBackendRef resolvers m ns).map fun (mirrorNS, mirrorPort) =>
      { type := .requestMirror
        requestMirror := some (mirrorConfig resolvers clientCert m mirrorNS mirrorPort) }

/-- The converted filter, and whether the scope it stands in must fail closed. -/
def convertFilter (ns : String) (clientCert : Option ClientCertConfig)
    (filter : HTTPRouteFilter) : Option RouteFilter × Bool :=
  match filter.type with
  | .requestHeaderModifier => (convertRequestHeaderFilter filter.requestHeaderModifier, false)
  | .responseHeaderModifier => (convertResponseHeaderFilter filter.responseHeaderModifier, false)
  | .requestRedirect => (convertRedirectFilter filter.requestRedirect, false)
  | .urlRewrite => (convertURLRewriteFilter filter.urlRewrite, false)
  | .requestMirror => (convertMirrorFilter resolvers filter.requestMirror ns clientCert, false)
  | .cors => (convertCORSFilter filter.cors, false)
  | .extensionRef | .externalAuth | .other _ => (none, true)

def convertGRPCFilter (filter : GRPCRouteFilter) : Option RouteFilter × Bool :=
  match filter.type with
  | .requestHeaderModifier => (convertRequestHeaderFilter filter.requestHeaderModifier, false)
  | .responseHeaderModifier => (convertResponseHeaderFilter filter.responseHeaderModifier, false)
  | .requestMirror | .extensionRef | .other _ => (none, true)

/-- The converted filters of one scope and whether any of them fails it. -/
def collectFilters (converted : List (Option RouteFilter × Bool)) : List RouteFilter × Bool :=
  (converted.filterMap Prod.fst, converted.any Prod.snd)

end Filters

section Matches

variable (lib : GoLib)

def convertPathMatch (pathMatch : HTTPPathMatch) : PathMatch where
  type := match pathMatch.type with
    | some .exact => .exact
    | some .regularExpression => .regularExpression
    | some .pathPrefix | some (.other _) | none => .pathPrefix
  value := pathMatch.value.getD ""

def convertMatchType (type : Option MatchType) : ValueMatchType :=
  if type = some .regularExpression then .regularExpression else .exact

def convertHeaderMatch (header : HTTPHeaderMatch) : HeaderMatch :=
  ⟨convertMatchType header.type, header.name, header.value⟩

def convertQueryMatch (query : HTTPQueryParamMatch) : QueryParamMatch :=
  ⟨convertMatchType query.type, query.name, query.value⟩

def convertMatch (m : HTTPRouteMatch) : RouteMatch where
  path := m.path.map convertPathMatch
  method := m.method.getD ""
  headers := m.headers.map convertHeaderMatch
  queryParams := m.queryParams.map convertQueryMatch

def grpcSegmentPattern : String := "[^/]+"

def grpcMethodToPath (method : Option GRPCMethodMatch) : Option PathMatch :=
  match method with
  | none => none
  | some method =>
      let service := method.service.getD ""
      let meth := method.method.getD ""
      if service = "" ∧ meth = "" then none
      else if method.type = some .regularExpression then
        let svcPattern := if service = "" then grpcSegmentPattern else service
        let methPattern := if meth = "" then grpcSegmentPattern else meth
        some ⟨.regularExpression, "^/(?:" ++ svcPattern ++ ")/(?:" ++ methPattern ++ ")$"⟩
      else if service ≠ "" ∧ meth ≠ "" then some ⟨.exact, "/" ++ service ++ "/" ++ meth⟩
      else if service ≠ "" then some ⟨.pathPrefix, "/" ++ service ++ "/"⟩
      else some ⟨.regularExpression,
        "^/" ++ grpcSegmentPattern ++ "/" ++ lib.quoteMeta meth ++ "$"⟩

def convertGRPCHeaderMatch (header : GRPCHeaderMatch) : HeaderMatch :=
  ⟨convertMatchType header.type, header.name, header.value⟩

/-- A match without any constraint is dropped. -/
def convertGRPCMatch (m : GRPCRouteMatch) : Option RouteMatch :=
  let path := grpcMethodToPath lib m.method
  let headers := m.headers.map convertGRPCHeaderMatch
  if path.isNone && headers.isEmpty then none else some { path := path, headers := headers }

end Matches

section Backends

variable (lib : GoLib) (resolvers : Resolvers)

/-- TLS wins over a cleartext hint. -/
def resolveH2C (rawURL : String) (tlsAttached : Bool) : BackendProtocol × String :=
  if tlsAttached then (.http, rawURL)
  else (.h2c, replaceFirst rawURL (schemeHTTPS ++ "://") (schemeHTTP ++ "://"))

def isTLSAppProtocol (appProto : String) : Bool :=
  appProto = schemeHTTPS || appProto = schemeHTTPSUpper || appProto = appProtocolWSS

/-- Protocol, URL, the WebSocket mark and whether the backend fails closed: a
TLS protocol without a policy has no trust anchor. -/
def resolveBackendProtocol (ns serviceName : String) (port : ℤ) (rawURL : String)
    (tlsAttached : Bool) : BackendProtocol × String × Bool × Bool :=
  let appProto := resolvers.protocolResolver ns serviceName port
  if appProto = appProtocolH2C then
    let (protocol, url) := resolveH2C rawURL tlsAttached
    (protocol, url, false, false)
  else if appProto = appProtocolWS then (.http, rawURL, true, false)
  else if appProto = appProtocolWSS then (.http, rawURL, true, !tlsAttached)
  else if appProto = schemeHTTPS ∨ appProto = schemeHTTPSUpper then
    (.http, rawURL, false, !tlsAttached)
  else (.http, rawURL, false, false)

/-- Attach the filters of a reference; a failing one turns the backend to 500. -/
def applyFilters (backend : ProxyConfig.BackendRef) (filters : List RouteFilter × Bool) :
    ProxyConfig.BackendRef :=
  { backend with
    filters := filters.1
    unavailableStatus :=
      if filters.2 then statusInternalServerError else backend.unavailableStatus }

def applyBackendFilters (ns : String) (clientCert : Option ClientCertConfig)
    (backend : ProxyConfig.BackendRef) (filters : List HTTPRouteFilter) :
    ProxyConfig.BackendRef :=
  applyFilters backend (collectFilters (filters.map (convertFilter resolvers ns clientCert)))

def applyGRPCBackendFilters (backend : ProxyConfig.BackendRef) (filters : List GRPCRouteFilter) :
    ProxyConfig.BackendRef :=
  applyFilters backend (collectFilters (filters.map convertGRPCFilter))

def convertExternalBackendRef (ns : String) (clientCert : Option ClientCertConfig)
    (weight : ℤ) (svcNamespace serviceName : String) (ref : HTTPBackendRef) :
    Option ProxyConfig.BackendRef :=
  if !validateCrossNamespace resolvers svcNamespace ns ref.toBackendObjectReference then
    markInvalidBackend weight serviceName svcNamespace defaultServicePort resolvers.clusterDomain
  else
    some (applyBackendFilters resolvers ns clientCert
      { weight := weight, url := externalBackendSentinelURL lib svcNamespace serviceName }
      ref.filters)

/-- TLS policy, client certificate and protocol of a resolved Service backend. -/
def applyBackendTransport (clientCert : Option ClientCertConfig)
    (backend : ProxyConfig.BackendRef) (svcNamespace serviceName : String) (port : ℤ) :
    ProxyConfig.BackendRef :=
  let (tls, url) := resolveBackendTLS resolvers svcNamespace serviceName port backend.url
  let tls := attachGatewayClientCert tls clientCert
  let (protocol, url, webSocket, failClosed) :=
    resolveBackendProtocol resolvers svcNamespace serviceName port url tls.isSome
  { backend with
    tls := tls
    url := url
    protocol := protocol
    webSocket := webSocket
    unavailableStatus := if failClosed then statusBadGateway else backend.unavailableStatus }

def convertBackendRef (ns : String) (clientCert : Option ClientCertConfig)
    (ref : HTTPBackendRef) : Option ProxyConfig.BackendRef :=
  match resolveCommonBackendRef resolvers ref.toBackendRef ns with
  | .dropped => none
  | .final backend => backend
  | .external weight svcNamespace serviceName =>
      convertExternalBackendRef lib resolvers ns clientCert weight svcNamespace serviceName ref
  | .resolved backend svcNamespace serviceName port =>
      some (applyBackendFilters resolvers ns clientCert
        (applyBackendTransport resolvers clientCert backend svcNamespace serviceName port)
        ref.filters)

def convertGRPCExternalBackendRef (ns : String) (weight : ℤ) (svcNamespace serviceName : String)
    (ref : GRPCBackendRef) : Option ProxyConfig.BackendRef :=
  if !validateCrossNamespace resolvers svcNamespace ns ref.toBackendObjectReference then
    markInvalidBackend weight serviceName svcNamespace defaultServicePort resolvers.clusterDomain
  else
    some (applyGRPCBackendFilters
      { weight := weight
        url := externalBackendSentinelURL lib svcNamespace serviceName
        protocol := .h2c } ref.filters)

/-- Without a policy the backend is dialed cleartext, unless its port asks for
TLS. -/
def applyGRPCBackendTransport (clientCert : Option ClientCertConfig)
    (backend : ProxyConfig.BackendRef) (svcNamespace serviceName : String) (port : ℤ) :
    ProxyConfig.BackendRef :=
  let (tls, url) := resolveBackendTLS resolvers svcNamespace serviceName port backend.url
  let backend := { backend with tls := attachGatewayClientCert tls clientCert, url := url }
  if backend.tls.isSome then backend
  else if isTLSAppProtocol (resolvers.protocolResolver svcNamespace serviceName port) then
    { backend with unavailableStatus := statusBadGateway }
  else
    { backend with
      url := replaceFirst backend.url (schemeHTTPS ++ "://") (schemeHTTP ++ "://")
      protocol := .h2c }

def convertGRPCBackendRef (ns : String) (clientCert : Option ClientCertConfig)
    (ref : GRPCBackendRef) : Option ProxyConfig.BackendRef :=
  match resolveCommonBackendRef resolvers ref.toBackendRef ns with
  | .dropped => none
  | .final backend => backend
  | .external weight svcNamespace serviceName =>
      convertGRPCExternalBackendRef lib resolvers ns weight svcNamespace serviceName ref
  | .resolved backend svcNamespace serviceName port =>
      some (applyGRPCBackendTransport resolvers clientCert
        (applyGRPCBackendFilters backend ref.filters) svcNamespace serviceName port)

/-- What both kinds of routes do with a reference; each makes its own of an ExternalBackend and of
a Service. -/
def convertCommon (ns : String) (ref : RouteSpec.BackendRef)
    (external : ℤ → String → String → ProxyConfig.BackendRef)
    (service : ProxyConfig.BackendRef → String → String → ℤ → ProxyConfig.BackendRef) :
    Option ProxyConfig.BackendRef :=
  match resolveCommonBackendRef resolvers ref ns with
  | .dropped => none
  | .final backend => backend
  | .external weight svcNamespace serviceName =>
      if !validateCrossNamespace resolvers svcNamespace ns ref.toBackendObjectReference then
        markInvalidBackend weight serviceName svcNamespace defaultServicePort resolvers.clusterDomain
      else some (external weight svcNamespace serviceName)
  | .resolved backend svcNamespace serviceName port =>
      some (service backend svcNamespace serviceName port)

/-- A backend fails closed exactly where its port asks for TLS and none is set. -/
theorem failClosed_resolveBackendProtocol (resolvers : Resolvers) (ns name : String) (port : ℤ)
    (rawURL : String) (tlsAttached : Bool) :
    (resolveBackendProtocol resolvers ns name port rawURL tlsAttached).2.2.2 =
      (isTLSAppProtocol (resolvers.protocolResolver ns name port) && !tlsAttached) := by
  unfold resolveBackendProtocol
  generalize resolvers.protocolResolver ns name port = appProto
  by_cases hh2c : appProto = appProtocolH2C
  · subst hh2c
    rfl
  by_cases hws : appProto = appProtocolWS
  · subst hws
    rfl
  by_cases hwss : appProto = appProtocolWSS
  · subst hwss
    rfl
  by_cases hhttps : appProto = schemeHTTPS ∨ appProto = schemeHTTPSUpper
  · rcases hhttps with hhttps | hhttps <;> subst hhttps <;> rfl
  · simp [hh2c, hws, hwss, hhttps, isTLSAppProtocol]

variable {lib resolvers} {ns : String} {clientCert : Option ClientCertConfig}
  {b : ProxyConfig.BackendRef}

/-- Where the backend of a reference comes from: it is marked invalid, or it is what the kind of
route makes of an ExternalBackend or of a Service. -/
inductive Origin (weight : ℤ) (external : ℤ → String → String → ProxyConfig.BackendRef)
    (service : ProxyConfig.BackendRef → String → String → ℤ → ProxyConfig.BackendRef) :
    ProxyConfig.BackendRef → Prop
  | invalid {name svcNamespace domain : String} {port : ℤ} {backend : ProxyConfig.BackendRef}
      (h : markInvalidBackend weight name svcNamespace port domain = some backend) :
      Origin weight external service backend
  | external (hweight : 0 ≤ weight) (svcNamespace serviceName : String) :
      Origin weight external service (external weight svcNamespace serviceName)
  | service (hweight : 0 ≤ weight) (svcNamespace serviceName domain : String) (port : ℤ) :
      Origin weight external service
        (service { weight := weight, url := buildServiceURL serviceName svcNamespace port domain }
          svcNamespace serviceName port)

theorem origin_of_common {ref : RouteSpec.BackendRef}
    {external : ℤ → String → String → ProxyConfig.BackendRef}
    {service : ProxyConfig.BackendRef → String → String → ℤ → ProxyConfig.BackendRef}
    (h : convertCommon resolvers ns ref external service = some b) :
    Origin (refWeight ref) external service b := by
  simp only [convertCommon, resolveCommonBackendRef, validateCommonBackendRef] at h
  split_ifs at h with hweight
  · exact .invalid h
  · dsimp only at h
    split_ifs at h
    · exact .invalid h
    · cases h
      exact .external (not_lt.mp hweight) _ _
  · exact .invalid h
  · exact .invalid h
  · cases h
    exact .service (not_lt.mp hweight) _ _ _ _

theorem origin_of_convertBackendRef {ref : HTTPBackendRef}
    (h : convertBackendRef lib resolvers ns clientCert ref = some b) :
    Origin (refWeight ref.toBackendRef)
      (fun weight svcNamespace serviceName => applyBackendFilters resolvers ns clientCert
        { weight := weight, url := externalBackendSentinelURL lib svcNamespace serviceName }
        ref.filters)
      (fun backend svcNamespace serviceName port => applyBackendFilters resolvers ns clientCert
        (applyBackendTransport resolvers clientCert backend svcNamespace serviceName port)
        ref.filters) b :=
  origin_of_common h

theorem origin_of_convertGRPCBackendRef {ref : GRPCBackendRef}
    (h : convertGRPCBackendRef lib resolvers ns clientCert ref = some b) :
    Origin (refWeight ref.toBackendRef)
      (fun weight svcNamespace serviceName => applyGRPCBackendFilters
        { weight := weight
          url := externalBackendSentinelURL lib svcNamespace serviceName
          protocol := .h2c } ref.filters)
      (fun backend => applyGRPCBackendTransport resolvers clientCert
        (applyGRPCBackendFilters backend ref.filters)) b :=
  origin_of_common h

end Backends

section Rules

variable (lib : GoLib) (resolvers : Resolvers)

def convertTimeouts (timeouts : HTTPRouteTimeouts) : Except String RouteTimeouts := do
  let request ← match timeouts.request with
    | none => pure 0
    | some text => (lib.parseDuration text).mapError fun err =>
        "invalid request timeout " ++ text.quote ++ ": " ++ err
  let backend ← match timeouts.backendRequest with
    | none => pure 0
    | some text => (lib.parseDuration text).mapError fun err =>
        "invalid backend timeout " ++ text.quote ++ ": " ++ err
  return ⟨request, backend⟩

/-- Timeouts that do not parse are dropped. -/
def convertHTTPRouteRule (ns : String) (hostnames : List String)
    (clientCert : Option ClientCertConfig) (rule : HTTPRouteRule) : RouteRule :=
  let (filters, failClosed) :=
    collectFilters (rule.filters.map (convertFilter resolvers ns clientCert))
  { hostnames := hostnames
    routeMatches := rule.routeMatches.map convertMatch
    filters := filters
    backends := rule.backendRefs.filterMap (convertBackendRef lib resolvers ns clientCert)
    timeouts := rule.timeouts.bind fun timeouts => (convertTimeouts lib timeouts).toOption
    unavailableStatus := if failClosed then statusInternalServerError else 0 }

def convertGRPCRouteRule (ns : String) (hostnames : List String)
    (clientCert : Option ClientCertConfig) (rule : GRPCRouteRule) : RouteRule :=
  let (filters, failClosed) := collectFilters (rule.filters.map convertGRPCFilter)
  { hostnames := hostnames
    routeMatches := rule.routeMatches.filterMap (convertGRPCMatch lib)
    filters := filters
    backends := rule.backendRefs.filterMap (convertGRPCBackendRef lib resolvers ns clientCert)
    unavailableStatus := if failClosed then statusInternalServerError else 0 }

/-- Where a rule comes from. -/
structure RuleProvenance where
  kind : RouteKind
  ns : String
  name : String
  creationTimestamp : ℤ
  ruleIndex : ℕ
  deriving DecidableEq

/-- A rule of the configuration beside its provenance; the source keeps two
slices that grow together. -/
structure ConvertedRule where
  provenance : RuleProvenance
  rule : RouteRule
  deriving DecidableEq

variable {Rule : Type}

/-- Oldest first, then by namespace and name. -/
def routePrecedes (left right : Route Rule) : Prop :=
  left.creationTimestamp < right.creationTimestamp ∨
    (left.creationTimestamp = right.creationTimestamp ∧
      (left.id.ns < right.id.ns ∨ (left.id.ns = right.id.ns ∧ left.id.name ≤ right.id.name)))

instance (left right : Route Rule) : Decidable (routePrecedes left right) := by
  unfold routePrecedes
  infer_instance

def sortRoutesByPrecedence (routes : List (Route Rule)) : List (Route Rule) :=
  routes.insertionSort routePrecedes

/-- The first parent that has a certificate decides. -/
def resolveFirstParentClientCertFromRefs (resolver : String → String → Option ClientCertConfig)
    (routeNamespace : String) : List ParentReference → Option ClientCertConfig
  | [] => none
  | ref :: rest =>
      if ref.group.any (fun group => group ≠ "" && group ≠ groupName) then
        resolveFirstParentClientCertFromRefs resolver routeNamespace rest
      else if ref.kind.any (fun kind => kind ≠ "" && kind ≠ kindGateway) then
        resolveFirstParentClientCertFromRefs resolver routeNamespace rest
      else
        match resolver (ref.ns.getD routeNamespace) ref.name with
        | some cert => some cert
        | none => resolveFirstParentClientCertFromRefs resolver routeNamespace rest

/-- The rules of one route, in order. -/
def convertRoute (certResolver : String → String → Option ClientCertConfig) (kind : RouteKind)
    (convertRule : String → List String → Option ClientCertConfig → Rule → RouteRule)
    (route : Route Rule) : List ConvertedRule :=
  let hostnames := route.hostnames.map Hostname.value
  let clientCert :=
    resolveFirstParentClientCertFromRefs certResolver route.id.ns route.parentRefs
  route.rules.mapIdx fun ruleIdx rule =>
    ⟨⟨kind, route.id.ns, route.id.name, route.creationTimestamp, ruleIdx⟩,
      convertRule route.id.ns hostnames clientCert rule⟩

def convertRoutesGeneric (certResolver : String → String → Option ClientCertConfig)
    (kind : RouteKind)
    (convertRule : String → List String → Option ClientCertConfig → Rule → RouteRule)
    (routes : List (Route Rule)) : List ConvertedRule :=
  (sortRoutesByPrecedence routes).flatMap (convertRoute certResolver kind convertRule)

def convertHTTPRoutes (certResolver : String → String → Option ClientCertConfig)
    (routes : List HTTPRoute) : List ConvertedRule :=
  convertRoutesGeneric certResolver .HTTPRoute (convertHTTPRouteRule lib resolvers) routes

def convertGRPCRoutes (certResolver : String → String → Option ClientCertConfig)
    (routes : List GRPCRoute) : List ConvertedRule :=
  convertRoutesGeneric certResolver .GRPCRoute (convertGRPCRouteRule lib resolvers) routes

variable {routes : List (Route Rule)} {kind : RouteKind}
  {convertRule : String → List String → Option ClientCertConfig → Rule → RouteRule}
  {certResolver : String → String → Option ClientCertConfig}

/-- Every rule comes from one rule of one of the routes. -/
theorem mem_convertRoutesGeneric (c : ConvertedRule) :
    c ∈ convertRoutesGeneric certResolver kind convertRule routes ↔
      ∃ route ∈ routes, c ∈ convertRoute certResolver kind convertRule route := by
  simp [convertRoutesGeneric, sortRoutesByPrecedence]

theorem mem_convertRoute {route : Route Rule} (c : ConvertedRule) :
    c ∈ convertRoute certResolver kind convertRule route ↔
      ∃ i rule, route.rules[i]? = some rule ∧
        c = ⟨⟨kind, route.id.ns, route.id.name, route.creationTimestamp, i⟩,
          convertRule route.id.ns (route.hostnames.map Hostname.value)
            (resolveFirstParentClientCertFromRefs certResolver route.id.ns route.parentRefs)
            rule⟩ := by
  simp only [convertRoute, List.mem_mapIdx]
  constructor
  · intro h
    obtain ⟨i, hi, rfl⟩ := h
    exact ⟨i, route.rules[i], List.getElem?_eq_getElem hi, rfl⟩
  · intro h
    obtain ⟨i, rule, hrule, rfl⟩ := h
    obtain ⟨hi, rfl⟩ := List.getElem?_eq_some_iff.mp hrule
    exact ⟨i, hi, rfl⟩

theorem map_rule_convertRoute (route : Route Rule) :
    (convertRoute certResolver kind convertRule route).map ConvertedRule.rule =
      route.rules.map (convertRule route.id.ns (route.hostnames.map Hostname.value)
        (resolveFirstParentClientCertFromRefs certResolver route.id.ns route.parentRefs)) := by
  refine List.ext_getElem? fun i => ?_
  simp [convertRoute, Function.comp_def]

theorem kind_of_mem_convertRoutesGeneric {c : ConvertedRule}
    (h : c ∈ convertRoutesGeneric certResolver kind convertRule routes) :
    c.provenance.kind = kind := by
  obtain ⟨route, -, hc⟩ := (mem_convertRoutesGeneric c).mp h
  obtain ⟨i, rule, -, rfl⟩ := (mem_convertRoute c).mp hc
  rfl

end Rules

end TunnelGateway.RouteConversion
