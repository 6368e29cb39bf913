import TunnelGateway.EffectiveHostnames
import TunnelGateway.FailedRefs

/-!
`buildProxyConfig`: the two route kinds are rewritten, converted and merged into
one list of rules, and then the passes over the backends run. Failed references
of HTTPRoutes are applied before the gRPC rules join, those of GRPCRoutes to all
rules.
-/
namespace TunnelGateway.BuildConfig

open GoText GatewayApi RouteSpec ProxyConfig ClusterObjects ServiceTarget ClusterResolvers
open RouteConversion BackendPasses FailedRefs EffectiveHostnames

section RedirectScheme

def isEmptySchemeRedirect (filter : HTTPRouteFilter) : Bool :=
  filter.type = .requestRedirect && filter.requestRedirect.any (·.scheme.isNone)

def redirectFilters (route : HTTPRoute) : List HTTPRouteFilter :=
  route.rules.flatMap fun rule => rule.filters ++ rule.backendRefs.flatMap HTTPBackendRef.filters

def routeHasEmptyRedirectScheme (route : HTTPRoute) : Bool :=
  (redirectFilters route).any isEmptySchemeRedirect

def setRedirectScheme (scheme : String) (filter : HTTPRouteFilter) : HTTPRouteFilter :=
  if isEmptySchemeRedirect filter then
    { filter with
      requestRedirect := filter.requestRedirect.map ({ · with scheme := some scheme }) }
  else filter

def applyDefaultRedirectScheme (scheme : String) (route : HTTPRoute) : HTTPRoute :=
  { route with
    rules := route.rules.map fun rule =>
      { rule with
        filters := rule.filters.map (setRedirectScheme scheme)
        backendRefs := rule.backendRefs.map fun ref =>
          { ref with filters := ref.filters.map (setRedirectScheme scheme) } } }

def defaultRedirectSchemeForRoute (cluster : Cluster) (lib : GoLib) (route : HTTPRoute) :
    HTTPRoute :=
  if !routeHasEmptyRedirectScheme route then route
  else
    let scheme := acceptedListenerScheme cluster lib .HTTPRoute route
    if scheme = "" then route else applyDefaultRedirectScheme scheme route

end RedirectScheme

/-- What a syncer is built with. -/
structure ProxySyncer where
  objects : Objects
  lib : GoLib
  clusterDomain : String
  controllerName : String

/-- Rules carry their provenance. -/
structure BuiltConfig where
  version : ℤ
  rules : List ConvertedRule
  hasGRPCRoute : Bool

def BuiltConfig.config (cfg : BuiltConfig) : Config :=
  ⟨cfg.version, cfg.rules.map ConvertedRule.rule, cfg.hasGRPCRoute⟩

namespace ProxySyncer

variable (s : ProxySyncer)

/-- ReferenceGrants are matched against the kind of the referring route. -/
def resolvers (kind : RouteKind) : Resolvers where
  clusterDomain := s.clusterDomain
  validator := newBackendRefValidator s.objects kind
  protocolResolver := newBackendProtocolResolver s.objects
  tlsResolver := newBackendTLSResolver s.objects

def gatewayCertResolver : String → String → Option ClientCertConfig :=
  newGatewayClientCertResolver s.objects s.controllerName

def preparedHTTPRoutes (routes : List HTTPRoute) : List HTTPRoute :=
  (withEffectiveHostnames s.objects.toCluster s.lib .HTTPRoute routes).map
    (defaultRedirectSchemeForRoute s.objects.toCluster s.lib)

def preparedGRPCRoutes (grpcRoutes : List GRPCRoute) : List GRPCRoute :=
  withEffectiveHostnames s.objects.toCluster s.lib .GRPCRoute grpcRoutes

def httpRules (routes : List HTTPRoute) : List ConvertedRule :=
  convertHTTPRoutes s.lib (s.resolvers .HTTPRoute) s.gatewayCertResolver
    (s.preparedHTTPRoutes routes)

def grpcRules (grpcRoutes : List GRPCRoute) : List ConvertedRule :=
  convertGRPCRoutes s.lib (s.resolvers .GRPCRoute) s.gatewayCertResolver
    (s.preparedGRPCRoutes grpcRoutes)

/-- The host a failed reference is looked up by. -/
def failedHost (ref : BackendRefError) : String :=
  serviceBackendHost s.lib (if ref.domain ≠ "" then ref.domain else s.clusterDomain)
    ref.backendNS ref.backendName ref.port

def markFailedRefs (failedRefs : List BackendRefError) (rules : List ConvertedRule) :
    List ConvertedRule :=
  failedRefs.foldl (fun acc ref =>
    markUnavailableBackends s.lib (s.failedHost ref) statusInternalServerError acc) rules

/-- The merged rules once the failed references are marked. -/
def markedRules (routes : List HTTPRoute) (grpcRoutes : List GRPCRoute)
    (failedRefs grpcFailedRefs : List BackendRefError) : List ConvertedRule :=
  let rules := s.markFailedRefs failedRefs (s.httpRules routes)
  if grpcRoutes.isEmpty then rules
  else s.markFailedRefs grpcFailedRefs (rules ++ s.grpcRules grpcRoutes)

def buildProxyConfig (version : ℤ) (routes : List HTTPRoute) (grpcRoutes : List GRPCRoute)
    (failedRefs grpcFailedRefs : List BackendRefError) : BuiltConfig :=
  let visitHTTP := s.preparedHTTPRoutes routes
  let visitGRPC := s.preparedGRPCRoutes grpcRoutes
  let rules := s.markedRules routes grpcRoutes failedRefs grpcFailedRefs
  let rules := expandHeadlessBackends s.objects s.lib s.clusterDomain visitHTTP visitGRPC rules
  let rules := markZeroEndpointBackends s.objects s.lib s.clusterDomain visitHTTP visitGRPC rules
  let rules := resolveExternalBackends s.lib s.objects rules
  ⟨version, rules, !grpcRoutes.isEmpty⟩

end ProxySyncer

end TunnelGateway.BuildConfig
