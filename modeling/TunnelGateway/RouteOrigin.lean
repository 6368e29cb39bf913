import TunnelGateway.BackendFate

/-!
Which route a rule of the built configuration comes from. Routes of both kinds
are treated alike, and a set of routes has each route once.
-/
namespace TunnelGateway.RouteOrigin

open GoText Hostname GatewayApi RouteSpec ProxyConfig ServiceTarget RouteConversion
open FailedRefs EffectiveHostnames BuildConfig BackendFate FanOut

inductive AnyRoute where
  | http (route : HTTPRoute)
  | grpc (route : GRPCRoute)
  deriving DecidableEq

namespace AnyRoute

def kind : AnyRoute → RouteKind
  | .http _ => .HTTPRoute
  | .grpc _ => .GRPCRoute

def id : AnyRoute → NamespacedName
  | .http route => route.id
  | .grpc route => route.id

def parentRefs : AnyRoute → List ParentReference
  | .http route => route.parentRefs
  | .grpc route => route.parentRefs

def hostnames : AnyRoute → List Hostname
  | .http route => route.hostnames
  | .grpc route => route.hostnames

end AnyRoute

/-- The routes one configuration is built from. -/
structure RouteSet where
  http : List HTTPRoute
  grpc : List GRPCRoute
  http_nodup : (http.map Route.id).Nodup
  grpc_nodup : (grpc.map Route.id).Nodup

namespace RouteSet

def single : AnyRoute → RouteSet
  | .http route => ⟨[route], [], List.nodup_singleton _, List.nodup_nil⟩
  | .grpc route => ⟨[], [route], List.nodup_nil, List.nodup_singleton _⟩

instance : Membership AnyRoute RouteSet where
  mem set route :=
    match route with
    | .http route => route ∈ set.http
    | .grpc route => route ∈ set.grpc

theorem mem_single {route route' : AnyRoute} : route' ∈ single route ↔ route' = route := by
  cases route with
  | http route =>
    cases route' with
    | http route' => exact List.mem_singleton.trans (by simp)
    | grpc route' => exact ⟨fun h => absurd h List.not_mem_nil, fun h => AnyRoute.noConfusion h⟩
  | grpc route =>
    cases route' with
    | http route' => exact ⟨fun h => absurd h List.not_mem_nil, fun h => AnyRoute.noConfusion h⟩
    | grpc route' => exact List.mem_singleton.trans (by simp)

end RouteSet

section Preparation

variable (s : ProxySyncer)

def prepareHTTPRoute (route : HTTPRoute) : HTTPRoute :=
  defaultRedirectSchemeForRoute s.objects.toCluster s.lib
    (withEffectiveHostname s.objects.toCluster s.lib .HTTPRoute route)

def prepareGRPCRoute (route : GRPCRoute) : GRPCRoute :=
  withEffectiveHostname s.objects.toCluster s.lib .GRPCRoute route

theorem preparedHTTPRoutes_eq (routes : List HTTPRoute) :
    s.preparedHTTPRoutes routes = routes.map (prepareHTTPRoute s) := by
  simp only [ProxySyncer.preparedHTTPRoutes, withEffectiveHostnames, List.map_map]
  rfl

/-- The hostnames a route is converted with. -/
def AnyRoute.servedHostnames : AnyRoute → List Hostname
  | .http route => EffectiveHostnames.servedHostnames s.objects.toCluster s.lib .HTTPRoute route
  | .grpc route => EffectiveHostnames.servedHostnames s.objects.toCluster s.lib .GRPCRoute route

/-- What preparing a route does to a rule: redirects without a scheme may get one. -/
inductive FillsRedirects : (HTTPRouteRule → HTTPRouteRule) → Prop
  | unchanged : FillsRedirects id
  | scheme (scheme : String) : FillsRedirects fun rule =>
      { rule with
        filters := rule.filters.map (setRedirectScheme scheme)
        backendRefs := rule.backendRefs.map fun ref =>
          { ref with filters := ref.filters.map (setRedirectScheme scheme) } }

theorem prepareHTTPRoute_spec (route : HTTPRoute) : ∃ fill, FillsRedirects fill ∧
    prepareHTTPRoute s route = { route with
      hostnames := (AnyRoute.http route).servedHostnames s
      rules := route.rules.map fill } := by
  rw [prepareHTTPRoute, withEffectiveHostname_eq]
  simp only [defaultRedirectSchemeForRoute]
  split_ifs
  · exact ⟨id, .unchanged, by rw [List.map_id]; rfl⟩
  · exact ⟨id, .unchanged, by rw [List.map_id]; rfl⟩
  · exact ⟨_, .scheme _, rfl⟩

theorem prepareGRPCRoute_spec (route : GRPCRoute) : prepareGRPCRoute s route =
    { route with hostnames := (AnyRoute.grpc route).servedHostnames s } :=
  withEffectiveHostname_eq _ _ _ route

theorem prepareHTTPRoute_frame (route : HTTPRoute) :
    (prepareHTTPRoute s route).id = route.id ∧
      (prepareHTTPRoute s route).parentRefs = route.parentRefs := by
  obtain ⟨fill, -, heq⟩ := prepareHTTPRoute_spec s route
  rw [heq]
  exact ⟨rfl, rfl⟩

theorem prepareGRPCRoute_frame (route : GRPCRoute) :
    (prepareGRPCRoute s route).id = route.id ∧
      (prepareGRPCRoute s route).parentRefs = route.parentRefs := by
  rw [prepareGRPCRoute_spec]
  exact ⟨rfl, rfl⟩

end Preparation

section Origin

variable (s : ProxySyncer)

/-- The rules a route is converted to, with the certificates of a resolver. -/
def convertAnyRoute (certResolver : String → String → Option ClientCertConfig) :
    AnyRoute → List ConvertedRule
  | .http route => convertRoute certResolver .HTTPRoute
      (convertHTTPRouteRule s.lib (s.resolvers .HTTPRoute)) (prepareHTTPRoute s route)
  | .grpc route => convertRoute certResolver .GRPCRoute
      (convertGRPCRouteRule s.lib (s.resolvers .GRPCRoute)) (prepareGRPCRoute s route)

theorem mem_convertedRules (set : RouteSet) (c : ConvertedRule) :
    c ∈ convertedRules s set.http set.grpc ↔
      ∃ route ∈ set, c ∈ convertAnyRoute s s.gatewayCertResolver route := by
  rw [convertedRules, List.mem_append, ProxySyncer.httpRules, ProxySyncer.grpcRules,
    convertHTTPRoutes, convertGRPCRoutes, mem_convertRoutesGeneric, mem_convertRoutesGeneric,
    preparedHTTPRoutes_eq]
  constructor
  · intro h
    rcases h with h | h
    · obtain ⟨prepared, hmem, hc⟩ := h
      obtain ⟨route, hroute, rfl⟩ := List.mem_map.mp hmem
      exact ⟨.http route, hroute, hc⟩
    · obtain ⟨prepared, hmem, hc⟩ := h
      obtain ⟨route, hroute, rfl⟩ := List.mem_map.mp hmem
      exact ⟨.grpc route, hroute, hc⟩
  · intro h
    obtain ⟨route, hroute, hc⟩ := h
    cases route with
    | http route => exact .inl ⟨_, List.mem_map_of_mem hroute, hc⟩
    | grpc route => exact .inr ⟨_, List.mem_map_of_mem hroute, hc⟩

/-- The rule's provenance names the route. -/
def ComesFrom (c : ConvertedRule) (route : AnyRoute) : Prop :=
  c.provenance.kind = route.kind ∧ c.provenance.ns = route.id.ns ∧
    c.provenance.name = route.id.name

instance (c : ConvertedRule) (route : AnyRoute) : Decidable (ComesFrom c route) := by
  unfold ComesFrom
  infer_instance

variable {route : AnyRoute} {c : ConvertedRule}
  {certResolver : String → String → Option ClientCertConfig} {set : RouteSet}

theorem comesFrom_of_mem_convertAnyRoute (hc : c ∈ convertAnyRoute s certResolver route) :
    ComesFrom c route := by
  cases route with
  | http route =>
    obtain ⟨i, rule, -, rfl⟩ := (mem_convertRoute c).mp hc
    have hid := (prepareHTTPRoute_frame s route).1
    exact ⟨rfl, congrArg NamespacedName.ns hid, congrArg NamespacedName.name hid⟩
  | grpc route =>
    obtain ⟨i, rule, -, rfl⟩ := (mem_convertRoute c).mp hc
    have hid := (prepareGRPCRoute_frame s route).1
    exact ⟨rfl, congrArg NamespacedName.ns hid, congrArg NamespacedName.name hid⟩

theorem hostnames_of_mem_convertAnyRoute (hc : c ∈ convertAnyRoute s certResolver route) :
    c.rule.hostnames = (route.servedHostnames s).map Hostname.value := by
  cases route with
  | http route =>
    obtain ⟨i, rule, -, rfl⟩ := (mem_convertRoute c).mp hc
    obtain ⟨fill, -, heq⟩ := prepareHTTPRoute_spec s route
    rw [heq]
    rfl
  | grpc route =>
    obtain ⟨i, rule, -, rfl⟩ := (mem_convertRoute c).mp hc
    rw [prepareGRPCRoute_spec]
    rfl

/-- Kind, namespace and name determine a route of the set. -/
theorem eq_of_mem_set {route' : AnyRoute} (h : route ∈ set) (h' : route' ∈ set)
    (hkind : route.kind = route'.kind) (hid : route.id = route'.id) : route = route' := by
  cases route with
  | http route =>
    cases route' with
    | http route' => exact congrArg _ (List.inj_on_of_nodup_map set.http_nodup h h' hid)
    | grpc route' => cases hkind
  | grpc route =>
    cases route' with
    | http route' => cases hkind
    | grpc route' => exact congrArg _ (List.inj_on_of_nodup_map set.grpc_nodup h h' hid)

/-- The rules that come from a route of the set are the ones it is converted to. -/
theorem mem_convertAnyRoute_of_comesFrom (hroute : route ∈ set)
    (hc : c ∈ convertedRules s set.http set.grpc) (hfrom : ComesFrom c route) :
    c ∈ convertAnyRoute s s.gatewayCertResolver route := by
  obtain ⟨route', hroute', hc⟩ := (mem_convertedRules s set c).mp hc
  obtain ⟨hkind, hns, hname⟩ := comesFrom_of_mem_convertAnyRoute s hc
  have hid : route'.id = route.id :=
    NamespacedName.ext (hns.symm.trans hfrom.2.1) (hname.symm.trans hfrom.2.2)
  have hsame : route' = route := eq_of_mem_set hroute' hroute (hkind.symm.trans hfrom.1) hid
  rwa [← hsame]

end Origin

end TunnelGateway.RouteOrigin
