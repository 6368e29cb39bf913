import TunnelGateway.ParentBinding

/-!
The routes of one sync. Each kind is listed and bound on its own; then an
HTTPRoute and a GRPCRoute that share a Gateway and a hostname are in conflict,
and the younger one is rejected on all of its parents.
-/
namespace TunnelGateway.RouteCollection

open GoText Hostname GatewayApi RouteBinding ParentBinding

/-- A listing from the API server, which holds each name once. -/
structure RouteList (Rule : Type) where
  items : List (Route Rule)
  ids_nodup : (items.map Route.id).Nodup

/-- The routes of one kind after binding. -/
structure RouteResult (Rule : Type) where
  accepted : List (Route Rule)
  rejected : List (Route Rule)
  bindings : List (String × RouteBindingInfo)
  accepted_nodup : (accepted.map Route.id).Nodup

def RouteResult.bindingOf {Rule : Type} (result : RouteResult Rule) (route : Route Rule) :
    RouteBindingInfo :=
  (result.bindings.lookup route.id.key).getD RouteBindingInfo.empty

section Listing

variable (cluster : Cluster) (lib : GoLib) (controllerName : String)
  (ownership : String → List Hostname → Option String) {Rule : Type} (kind : RouteKind)

/-- `getRelevantHTTPRoutes` and `getRelevantGRPCRoutes`. -/
def getRelevantRoutes (routes : RouteList Rule) : RouteResult Rule :=
  let bind := bindRouteParents cluster lib controllerName ownership kind
  { accepted := routes.items.filter fun route => (bind route).2.1
    rejected := routes.items.filter fun route => !(bind route).2.1 && (bind route).2.2
    bindings := routes.items.map fun route => (route.id.key, (bind route).1)
    accepted_nodup := routes.ids_nodup.sublist (List.filter_sublist.map Route.id) }

end Listing

section CrossType

variable {Rule HTTPRule GRPCRule : Type}

def crossTypeConflictMessage : String :=
  "Conflicts with a Route of the other type (HTTPRoute/GRPCRoute) on a shared " ++
  "Gateway with intersecting hostnames; the oldest Route by creationTimestamp is accepted"

structure CrossTypeRoute where
  key : String
  created : ℤ
  gateways : List String
  hostnames : List Hostname

/-- `httpCrossTypeRoutes` and `grpcCrossTypeRoutes`. -/
def crossTypeRoutes (result : RouteResult Rule) : List CrossTypeRoute :=
  result.accepted.map fun route =>
    ⟨route.id.key, route.creationTimestamp, (result.bindingOf route).acceptedGateways,
      route.hostnames⟩

/-- Oldest first, then by key. -/
def routeWins (left right : CrossTypeRoute) : Bool :=
  if left.created ≠ right.created then left.created < right.created
  else left.key < right.key

/-- The smaller set is walked. -/
def gatewaysIntersect (left right : List String) : Bool :=
  if right.length < left.length then right.any (· ∈ left) else left.any (· ∈ right)

def wildcardCovers (wildcard host : String) : Bool :=
  let suffix := sliceFrom wildcard 1
  hasSuffix host suffix && len host > len suffix

/-- Unlike the binding check this does not fold case. -/
def hostnameOverlaps (left right : String) : Bool :=
  match hasPrefix left "*.", hasPrefix right "*." with
  | false, false => left = right
  | true, false => wildcardCovers left right
  | false, true => wildcardCovers right left
  | true, true => hasSuffix (sliceFrom left 1) (sliceFrom right 1) ||
      hasSuffix (sliceFrom right 1) (sliceFrom left 1)

def hostnamesOverlap (left right : List Hostname) : Bool :=
  left.isEmpty || right.isEmpty ||
    left.any fun l => right.any fun r => hostnameOverlaps l.value r.value

def inConflict (left right : CrossTypeRoute) : Bool :=
  gatewaysIntersect left.gateways right.gateways && hostnamesOverlap left.hostnames right.hostnames

/-- Every accepted result is turned down; the accepted Gateways stay. -/
def markBindingConflicted (info : RouteBindingInfo) : RouteBindingInfo :=
  { info with
    bindingResults := info.bindingResults.map fun entry =>
      if entry.2.accepted then
        (entry.1, { entry.2 with
          accepted := false, reason := .conflicted, message := crossTypeConflictMessage })
      else entry }

def rejectCrossTypeLosers (result : RouteResult Rule) (losers : List String) : RouteResult Rule :=
  let lost := result.accepted.filter fun route => route.id.key ∈ losers
  { accepted := result.accepted.filter fun route => route.id.key ∉ losers
    rejected := result.rejected ++ lost
    bindings := result.bindings.map fun entry =>
      (entry.1, if entry.1 ∈ lost.map (·.id.key) then markBindingConflicted entry.2 else entry.2)
    accepted_nodup := result.accepted_nodup.sublist (List.filter_sublist.map Route.id) }

/-- Each conflicting pair has one loser. -/
def resolveCrossTypeConflicts (httpResult : RouteResult HTTPRule)
    (grpcResult : RouteResult GRPCRule) : RouteResult HTTPRule × RouteResult GRPCRule :=
  let pairs := (crossTypeRoutes httpResult).flatMap fun http =>
    (crossTypeRoutes grpcResult).filterMap fun grpc =>
      if inConflict http grpc then some (http, grpc) else none
  let grpcLosers := (pairs.filter fun pair => routeWins pair.1 pair.2).map (·.2.key)
  let httpLosers := (pairs.filter fun pair => !routeWins pair.1 pair.2).map (·.1.key)
  (rejectCrossTypeLosers httpResult httpLosers, rejectCrossTypeLosers grpcResult grpcLosers)

end CrossType

section Provenance

variable (cluster : Cluster) (lib : GoLib) (controllerName : String)
  (ownership : String → List Hostname → Option String) {Rule HTTPRule GRPCRule : Type}

/-- Accepted routes are those the binding loop accepted, on the Gateways it
found. -/
structure FromBinding (kind : RouteKind) (result : RouteResult Rule) : Prop where
  accepted : ∀ route ∈ result.accepted,
    (bindRouteParents cluster lib controllerName ownership kind route).2.1 = true
  gateways : ∀ route ∈ result.accepted, (result.bindingOf route).acceptedGateways =
    (bindRouteParents cluster lib controllerName ownership kind route).1.acceptedGateways

omit cluster lib controllerName ownership in
/-- A key that occurs once looks up its own entry. -/
private theorem lookup_of_mem {β : Type} {entries : List (String × β)} {key : String} {value : β}
    (hnodup : (entries.map Prod.fst).Nodup) (hmem : (key, value) ∈ entries) :
    entries.lookup key = some value := by
  induction entries with
  | nil => cases hmem
  | cons entry rest ih =>
    rw [List.map_cons, List.nodup_cons] at hnodup
    rcases List.mem_cons.mp hmem with rfl | hrest
    · simp
    · have hne : key ≠ entry.1 := by
        intro hkey
        exact hnodup.1 (hkey ▸ List.mem_map_of_mem hrest)
      rw [List.lookup_cons, beq_false_of_ne hne]
      exact ih hnodup.2 hrest

theorem bindingOf_getRelevantRoutes {kind : RouteKind} {routes : RouteList Rule}
    {route : Route Rule} (hroute : route ∈ routes.items) :
    (getRelevantRoutes cluster lib controllerName ownership kind routes).bindingOf route =
      (bindRouteParents cluster lib controllerName ownership kind route).1 := by
  have hnodup := routes.ids_nodup.map NamespacedName.key_injective
  rw [List.map_map] at hnodup
  have hlookup : (routes.items.map fun r => (r.id.key,
      (bindRouteParents cluster lib controllerName ownership kind r).1)).lookup route.id.key =
      some (bindRouteParents cluster lib controllerName ownership kind route).1 :=
    lookup_of_mem (by rwa [List.map_map]) (List.mem_map.mpr ⟨route, hroute, rfl⟩)
  simp [RouteResult.bindingOf, getRelevantRoutes, hlookup]

theorem fromBinding_getRelevantRoutes (kind : RouteKind) (routes : RouteList Rule) :
    FromBinding cluster lib controllerName ownership kind
      (getRelevantRoutes cluster lib controllerName ownership kind routes) where
  accepted route hroute := (List.mem_filter.mp hroute).2
  gateways route hroute := by
    rw [bindingOf_getRelevantRoutes cluster lib controllerName ownership
      (List.mem_filter.mp hroute).1]

/-- A map over the values of an association list, looked up. -/
theorem lookup_map_value {κ α β : Type} [DecidableEq κ] (f : κ → α → β)
    (entries : List (κ × α)) (key : κ) :
    (entries.map fun entry => (entry.1, f entry.1 entry.2)).lookup key =
      (entries.lookup key).map (f key) := by
  induction entries with
  | nil => rfl
  | cons entry rest ih =>
    obtain ⟨k, value⟩ := entry
    rw [List.map_cons]
    by_cases hk : key = k
    · subst hk
      simp
    · simp [List.lookup_cons, beq_false_of_ne hk, ih]

theorem lookup_rejectCrossTypeLosers (bindings : List (String × RouteBindingInfo))
    (lost : List String) (key : String) (hkey : key ∉ lost) :
    (bindings.map fun entry =>
      (entry.1, if entry.1 ∈ lost then markBindingConflicted entry.2 else entry.2)).lookup key =
      bindings.lookup key := by
  rw [lookup_map_value fun key info => if key ∈ lost then markBindingConflicted info else info]
  simp [hkey]

variable {cluster lib controllerName ownership}

/-- Rejecting losers leaves the binding of the kept routes alone. -/
theorem FromBinding.rejectCrossTypeLosers {kind : RouteKind} {result : RouteResult Rule}
    (h : FromBinding cluster lib controllerName ownership kind result) (losers : List String) :
    FromBinding cluster lib controllerName ownership kind
      (RouteCollection.rejectCrossTypeLosers result losers) where
  accepted route hroute := h.accepted route (List.mem_filter.mp hroute).1
  gateways route hroute := by
    obtain ⟨hmem, hkept⟩ := List.mem_filter.mp hroute
    have hnotlost : route.id.key ∉
        (result.accepted.filter fun r => r.id.key ∈ losers).map (·.id.key) := by
      intro hlost
      obtain ⟨r, hr, hkey⟩ := List.mem_map.mp hlost
      rw [← hkey] at hkept
      exact of_decide_eq_true hkept (of_decide_eq_true (List.mem_filter.mp hr).2)
    rw [← h.gateways route hmem]
    simp only [RouteResult.bindingOf, RouteCollection.rejectCrossTypeLosers,
      lookup_rejectCrossTypeLosers _ _ _ hnotlost]

theorem fromBinding_resolveCrossTypeConflicts {httpResult : RouteResult HTTPRule}
    {grpcResult : RouteResult GRPCRule}
    (hhttp : FromBinding cluster lib controllerName ownership .HTTPRoute httpResult)
    (hgrpc : FromBinding cluster lib controllerName ownership .GRPCRoute grpcResult) :
    FromBinding cluster lib controllerName ownership .HTTPRoute
      (resolveCrossTypeConflicts httpResult grpcResult).1 ∧
    FromBinding cluster lib controllerName ownership .GRPCRoute
      (resolveCrossTypeConflicts httpResult grpcResult).2 :=
  ⟨hhttp.rejectCrossTypeLosers _, hgrpc.rejectCrossTypeLosers _⟩

end Provenance

end TunnelGateway.RouteCollection
