import TunnelGateway.EndpointProbes

/-!
The build rule by rule. A pass visits Services in the order in which the routes
name them, but what it does to one rule depends on that rule and the Services
alone, so the built configuration is the converted one with every rule rewritten
by itself.
-/
namespace TunnelGateway.RulePasses

open GoText GatewayApi RouteSpec ProxyConfig ClusterObjects ServiceTarget RouteConversion
open BackendPasses FailedRefs BuildConfig BackendFate EndpointProbes

section Build

variable (s : ProxySyncer)

/-- The Services a pass over the rules acts on. -/
abbrev visitedServices (refs : List ServiceKey) (rules : List ConvertedRule) : List ServiceKey :=
  authorizedServices s.lib s.clusterDomain refs rules

theorem failedRule_eq_of_perm {refs refs' : List BackendRefError} (h : refs.Perm refs')
    (rule : RouteRule) : failedRule s refs rule = failedRule s refs' rule :=
  visitRule_eq_of_perm (fun ref ref' rule => markRule_comm s.lib (s.failedHost ref)
    (s.failedHost ref') statusInternalServerError rule) h rule

def headlessRules (keys : List ServiceKey) (rule : RouteRule) : RouteRule :=
  visitRule (headlessRule s.lib s.objects s.clusterDomain) keys rule

def zeroEndpointRules (keys : List ServiceKey) (rule : RouteRule) : RouteRule :=
  visitRule (zeroEndpointRule s.lib s.objects s.clusterDomain) keys rule

theorem expandHeadlessBackends_eq (routes : List HTTPRoute) (grpcRoutes : List GRPCRoute)
    (rules : List ConvertedRule) :
    expandHeadlessBackends s.objects s.lib s.clusterDomain (s.preparedHTTPRoutes routes)
        (s.preparedGRPCRoutes grpcRoutes) rules =
      mapRules (headlessRules s (visitedServices s (visitedRefs s routes grpcRoutes) rules))
        rules := by
  rw [expandHeadlessBackends, visitAuthorizedServiceBackends]
  simp only [expandBackendIfHeadless_eq]
  exact foldl_mapRules (headlessRule s.lib s.objects s.clusterDomain) _ rules

theorem markZeroEndpointBackends_eq (routes : List HTTPRoute) (grpcRoutes : List GRPCRoute)
    (rules : List ConvertedRule) :
    markZeroEndpointBackends s.objects s.lib s.clusterDomain (s.preparedHTTPRoutes routes)
        (s.preparedGRPCRoutes grpcRoutes) rules =
      mapRules (zeroEndpointRules s (visitedServices s (visitedRefs s routes grpcRoutes) rules))
        rules := by
  rw [markZeroEndpointBackends, visitAuthorizedServiceBackends]
  simp only [markBackendIfZeroEndpoints_eq]
  exact foldl_mapRules (zeroEndpointRule s.lib s.objects s.clusterDomain) _ rules

/-- What the passes after the marking of failed references make of a rule, where
the routes refer to the Services in this order. -/
def probedRule (refs : List ServiceKey) (marked : List ConvertedRule) (rule : RouteRule) :
    RouteRule :=
  let keys := visitedServices s refs marked
  let expanded := mapRules (headlessRules s keys) marked
  externalRule s.lib s.objects
    (zeroEndpointRules s (visitedServices s refs expanded) (headlessRules s keys rule))

theorem rules_buildProxyConfig (version : ℤ) (routes : List HTTPRoute)
    (grpcRoutes : List GRPCRoute) (failedRefs grpcFailedRefs : List BackendRefError) :
    (s.buildProxyConfig version routes grpcRoutes failedRefs grpcFailedRefs).rules =
      mapRules (probedRule s (visitedRefs s routes grpcRoutes)
          (s.markedRules routes grpcRoutes failedRefs grpcFailedRefs))
        (s.markedRules routes grpcRoutes failedRefs grpcFailedRefs) := by
  simp only [ProxySyncer.buildProxyConfig, expandHeadlessBackends_eq, markZeroEndpointBackends_eq]
  rw [mapRules_mapRules, resolveExternalBackends, mapRules_mapRules]
  rfl

end Build

end TunnelGateway.RulePasses
