import TunnelGateway.HostnameAlgebra
import TunnelGateway.ParentResolvers

/-!
What the cross-type resolution leaves standing. Losers are collected over all
pairs of an HTTPRoute and a GRPCRoute without pairing the survivors again, so the
outcome of a route depends on every route it is in conflict with, whether that
one survives or not.
-/
namespace TunnelGateway.CrossTypeConflicts

open GoText Hostname GatewayApi RouteBinding ParentBinding RouteCollection HostnameAlgebra
  EffectiveHostnames ParentResolvers

section Losers

variable {Rule HTTPRule GRPCRule : Type}

/-- A route as the resolution sees it. -/
def crossTypeRoute (result : RouteResult Rule) (route : Route Rule) : CrossTypeRoute :=
  ⟨route.id.key, route.creationTimestamp, (result.bindingOf route).acceptedGateways,
    route.hostnames⟩

/-- The two routes are accepted on a common Gateway and their hostnames
intersect. -/
def Conflicting (httpResult : RouteResult HTTPRule) (grpcResult : RouteResult GRPCRule)
    (http : Route HTTPRule) (grpc : Route GRPCRule) : Prop :=
  (∃ gateway ∈ (httpResult.bindingOf http).acceptedGateways,
    gateway ∈ (grpcResult.bindingOf grpc).acceptedGateways) ∧
  hostnamesOverlap http.hostnames grpc.hostnames = true

/-- Same creation time and same namespace and name. -/
def Tied (http : Route HTTPRule) (grpc : Route GRPCRule) : Prop :=
  http.creationTimestamp = grpc.creationTimestamp ∧ http.id = grpc.id

theorem gatewaysIntersect_iff (left right : List String) :
    gatewaysIntersect left right = true ↔ ∃ gateway ∈ left, gateway ∈ right := by
  rw [gatewaysIntersect]
  split
  · simp only [List.any_eq_true, decide_eq_true_eq]
    constructor
    · intro h
      obtain ⟨gateway, hright, hleft⟩ := h
      exact ⟨gateway, hleft, hright⟩
    · intro h
      obtain ⟨gateway, hleft, hright⟩ := h
      exact ⟨gateway, hright, hleft⟩
  · simp

theorem inConflict_iff (httpResult : RouteResult HTTPRule) (grpcResult : RouteResult GRPCRule)
    (http : Route HTTPRule) (grpc : Route GRPCRule) :
    inConflict (crossTypeRoute httpResult http) (crossTypeRoute grpcResult grpc) = true ↔
      Conflicting httpResult grpcResult http grpc := by
  rw [inConflict, Bool.and_eq_true, gatewaysIntersect_iff]
  rfl

/-- Of two routes with different stamps or names exactly one wins. -/
theorem not_routeWins_iff (left right : CrossTypeRoute) :
    routeWins left right = false ↔
      routeWins right left = true ∨ (left.created = right.created ∧ left.key = right.key) := by
  simp only [routeWins]
  by_cases hcreated : left.created = right.created
  · rw [if_neg (not_not.mpr hcreated), if_neg (not_not.mpr hcreated.symm)]
    simp only [decide_eq_false_iff_not, decide_eq_true_eq, hcreated, true_and]
    exact GoText.le_iff_lt_or_eq.trans (or_congr_right eq_comm)
  · rw [if_pos hcreated, if_pos (Ne.symm hcreated)]
    simp only [decide_eq_false_iff_not, decide_eq_true_eq]
    constructor
    · intro h
      omega
    · intro h
      omega

/-- The keys of the routes that lose a pairing, as the two loops collect them. -/
def losers (httpResult : RouteResult HTTPRule) (grpcResult : RouteResult GRPCRule) :
    List String × List String :=
  let pairs := (crossTypeRoutes httpResult).flatMap fun http =>
    (crossTypeRoutes grpcResult).filterMap fun grpc =>
      if inConflict http grpc then some (http, grpc) else none
  ((pairs.filter fun pair => !routeWins pair.1 pair.2).map (·.1.key),
    (pairs.filter fun pair => routeWins pair.1 pair.2).map (·.2.key))

theorem resolveCrossTypeConflicts_eq (httpResult : RouteResult HTTPRule)
    (grpcResult : RouteResult GRPCRule) :
    resolveCrossTypeConflicts httpResult grpcResult =
      (rejectCrossTypeLosers httpResult (losers httpResult grpcResult).1,
        rejectCrossTypeLosers grpcResult (losers httpResult grpcResult).2) := rfl

private theorem mem_pairs (httpResult : RouteResult HTTPRule) (grpcResult : RouteResult GRPCRule)
    (pair : CrossTypeRoute × CrossTypeRoute) :
    pair ∈ ((crossTypeRoutes httpResult).flatMap fun http =>
        (crossTypeRoutes grpcResult).filterMap fun grpc =>
          if inConflict http grpc then some (http, grpc) else none) ↔
      ∃ http ∈ httpResult.accepted, ∃ grpc ∈ grpcResult.accepted,
        Conflicting httpResult grpcResult http grpc ∧
          pair = (crossTypeRoute httpResult http, crossTypeRoute grpcResult grpc) := by
  simp only [crossTypeRoutes, List.mem_flatMap, List.mem_filterMap, List.mem_map,
    Option.ite_none_right_eq_some, Option.some.injEq]
  constructor
  · rintro ⟨_, ⟨http, hhttp, rfl⟩, _, ⟨grpc, hgrpc, rfl⟩, hconflict, rfl⟩
    exact ⟨http, hhttp, grpc, hgrpc, (inConflict_iff _ _ _ _).mp hconflict, rfl⟩
  · rintro ⟨http, hhttp, grpc, hgrpc, hconflict, rfl⟩
    exact ⟨_, ⟨http, hhttp, rfl⟩, _, ⟨grpc, hgrpc, rfl⟩, (inConflict_iff _ _ _ _).mpr hconflict,
      rfl⟩

/-- Keys tell the accepted routes of one kind apart. -/
theorem eq_of_key_eq {result : RouteResult Rule} {a b : Route Rule} (ha : a ∈ result.accepted)
    (hb : b ∈ result.accepted) (hkey : a.id.key = b.id.key) : a = b :=
  List.inj_on_of_nodup_map result.accepted_nodup ha hb (NamespacedName.key_injective hkey)

variable (httpResult : RouteResult HTTPRule) (grpcResult : RouteResult GRPCRule)

theorem mem_httpLosers {http : Route HTTPRule} (hhttp : http ∈ httpResult.accepted) :
    http.id.key ∈ (losers httpResult grpcResult).1 ↔
      ∃ grpc ∈ grpcResult.accepted, Conflicting httpResult grpcResult http grpc ∧
        routeWins (crossTypeRoute httpResult http) (crossTypeRoute grpcResult grpc) = false := by
  simp only [losers, List.mem_map, List.mem_filter, mem_pairs, Bool.not_eq_true']
  constructor
  · rintro ⟨_, ⟨⟨other, hother, grpc, hgrpc, hconflict, rfl⟩, hloses⟩, hkey⟩
    have hsame := eq_of_key_eq hother hhttp hkey
    subst hsame
    exact ⟨grpc, hgrpc, hconflict, hloses⟩
  · rintro ⟨grpc, hgrpc, hconflict, hloses⟩
    exact ⟨_, ⟨⟨http, hhttp, grpc, hgrpc, hconflict, rfl⟩, hloses⟩, rfl⟩

theorem mem_grpcLosers {grpc : Route GRPCRule} (hgrpc : grpc ∈ grpcResult.accepted) :
    grpc.id.key ∈ (losers httpResult grpcResult).2 ↔
      ∃ http ∈ httpResult.accepted, Conflicting httpResult grpcResult http grpc ∧
        routeWins (crossTypeRoute httpResult http) (crossTypeRoute grpcResult grpc) = true := by
  simp only [losers, List.mem_map, List.mem_filter, mem_pairs]
  constructor
  · rintro ⟨_, ⟨⟨http, hhttp, other, hother, hconflict, rfl⟩, hwins⟩, hkey⟩
    have hsame := eq_of_key_eq hother hgrpc hkey
    subst hsame
    exact ⟨http, hhttp, hconflict, hwins⟩
  · rintro ⟨http, hhttp, hconflict, hwins⟩
    exact ⟨_, ⟨⟨http, hhttp, grpc, hgrpc, hconflict, rfl⟩, hwins⟩, rfl⟩

end Losers

section Rejection

variable {Rule : Type} (result : RouteResult Rule) (lost : List String)

theorem mem_accepted_rejectCrossTypeLosers (route : Route Rule) :
    route ∈ (rejectCrossTypeLosers result lost).accepted ↔
      route ∈ result.accepted ∧ route.id.key ∉ lost := by
  simp [rejectCrossTypeLosers]

/-- Losers move from one list to the other. -/
theorem perm_rejectCrossTypeLosers :
    ((rejectCrossTypeLosers result lost).accepted ++
      (rejectCrossTypeLosers result lost).rejected).Perm (result.accepted ++ result.rejected) := by
  have hsplit := List.filter_append_perm (fun route : Route Rule => decide (route.id.key ∉ lost))
    result.accepted
  simp only [decide_not, Bool.not_not] at hsplit
  simp only [rejectCrossTypeLosers, decide_not]
  refine (List.Perm.append_left _ List.perm_append_comm).trans ?_
  rw [← List.append_assoc]
  exact hsplit.append_right result.rejected

/-- The keys whose binding is marked. -/
def marked : List String :=
  (result.accepted.filter fun route => route.id.key ∈ lost).map (·.id.key)

theorem mem_marked {route : Route Rule} (hroute : route ∈ result.accepted) :
    route.id.key ∈ marked result lost ↔ route.id.key ∈ lost := by
  simp only [marked, List.mem_map, List.mem_filter, decide_eq_true_eq]
  constructor
  · rintro ⟨other, ⟨-, hlost⟩, hkey⟩
    rwa [← hkey]
  · intro hlost
    exact ⟨route, ⟨hroute, hlost⟩, rfl⟩

/-- Marked bindings are conflicted, the others are kept. -/
theorem lookup_bindings_rejectCrossTypeLosers (key : String) :
    (rejectCrossTypeLosers result lost).bindings.lookup key =
      (result.bindings.lookup key).map fun info =>
        if key ∈ marked result lost then markBindingConflicted info else info :=
  lookup_map_value (fun key info =>
    if key ∈ marked result lost then markBindingConflicted info else info) _ _

/-- Marking does not touch the Gateways a route was accepted on. -/
theorem acceptedGateways_rejectCrossTypeLosers (route : Route Rule) :
    ((rejectCrossTypeLosers result lost).bindingOf route).acceptedGateways =
      (result.bindingOf route).acceptedGateways := by
  simp only [RouteResult.bindingOf, lookup_bindings_rejectCrossTypeLosers]
  cases result.bindings.lookup route.id.key with
  | none => rfl
  | some info =>
    split <;> rfl

theorem not_accepted_markBindingConflicted (info : RouteBindingInfo) :
    ∀ entry ∈ (markBindingConflicted info).bindingResults, entry.2.accepted = false := by
  intro entry hentry
  simp only [markBindingConflicted, List.mem_map] at hentry
  obtain ⟨before, -, rfl⟩ := hentry
  split
  · rfl
  · rename_i haccepted
    exact Bool.eq_false_iff.mpr haccepted

theorem not_accepted_of_lost {route : Route Rule} (hroute : route ∈ result.accepted)
    (hlost : route.id.key ∈ lost) :
    ∀ entry ∈ ((rejectCrossTypeLosers result lost).bindingOf route).bindingResults,
      entry.2.accepted = false := by
  have hmarked := (mem_marked result lost hroute).mpr hlost
  simp only [RouteResult.bindingOf, lookup_bindings_rejectCrossTypeLosers, if_pos hmarked]
  cases result.bindings.lookup route.id.key with
  | none =>
    intro entry hentry
    cases hentry
  | some info => exact not_accepted_markBindingConflicted info

end Rejection

section InputOrder

variable {Rule HTTPRule GRPCRule : Type}

/-- The same routes and the same map of bindings, listed in another order. -/
structure SameUpToOrder (a b : RouteResult Rule) : Prop where
  accepted : a.accepted.Perm b.accepted
  rejected : a.rejected.Perm b.rejected
  bindings : ∀ key, a.bindings.lookup key = b.bindings.lookup key

variable {a b : RouteResult Rule}

theorem SameUpToOrder.bindingOf (h : SameUpToOrder a b) (route : Route Rule) :
    a.bindingOf route = b.bindingOf route := by
  rw [RouteResult.bindingOf, RouteResult.bindingOf, h.bindings]

theorem SameUpToOrder.crossTypeRoute (h : SameUpToOrder a b) (route : Route Rule) :
    CrossTypeConflicts.crossTypeRoute a route = CrossTypeConflicts.crossTypeRoute b route := by
  rw [CrossTypeConflicts.crossTypeRoute, CrossTypeConflicts.crossTypeRoute, h.bindingOf]

/-- Rejecting the same keys keeps two results the same up to order. -/
theorem SameUpToOrder.rejectCrossTypeLosers (h : SameUpToOrder a b) {lost lost' : List String}
    (hlost : ∀ route ∈ a.accepted, route.id.key ∈ lost ↔ route.id.key ∈ lost') :
    SameUpToOrder (RouteCollection.rejectCrossTypeLosers a lost)
      (RouteCollection.rejectCrossTypeLosers b lost') := by
  have hfilter : (a.accepted.filter fun route => route.id.key ∈ lost).Perm
      (b.accepted.filter fun route => route.id.key ∈ lost') := by
    rw [List.filter_congr (fun route hroute => decide_eq_decide.mpr (hlost route hroute))]
    exact h.accepted.filter _
  refine ⟨?_, h.rejected.append hfilter, ?_⟩
  · have hkept : a.accepted.filter (fun route => route.id.key ∉ lost) =
        a.accepted.filter (fun route => route.id.key ∉ lost') :=
      List.filter_congr fun route hroute => decide_eq_decide.mpr (not_congr (hlost route hroute))
    show (a.accepted.filter fun route => route.id.key ∉ lost).Perm
      (b.accepted.filter fun route => route.id.key ∉ lost')
    rw [hkept]
    exact h.accepted.filter _
  · intro key
    have hmarked : key ∈ marked a lost ↔ key ∈ marked b lost' := (hfilter.map _).mem_iff
    simp [lookup_bindings_rejectCrossTypeLosers, h.bindings, hmarked]

variable {httpResult httpResult' : RouteResult HTTPRule}
  {grpcResult grpcResult' : RouteResult GRPCRule}

theorem conflicting_congr (hhttp : SameUpToOrder httpResult httpResult')
    (hgrpc : SameUpToOrder grpcResult grpcResult') (http : Route HTTPRule)
    (grpc : Route GRPCRule) :
    Conflicting httpResult grpcResult http grpc ↔
      Conflicting httpResult' grpcResult' http grpc := by
  rw [Conflicting, Conflicting, hhttp.bindingOf, hgrpc.bindingOf]

/-- Reordered inputs give reordered outputs. -/
theorem sameUpToOrder_resolveCrossTypeConflicts (hhttp : SameUpToOrder httpResult httpResult')
    (hgrpc : SameUpToOrder grpcResult grpcResult') :
    SameUpToOrder (resolveCrossTypeConflicts httpResult grpcResult).1
      (resolveCrossTypeConflicts httpResult' grpcResult').1 ∧
    SameUpToOrder (resolveCrossTypeConflicts httpResult grpcResult).2
      (resolveCrossTypeConflicts httpResult' grpcResult').2 := by
  constructor
  · refine hhttp.rejectCrossTypeLosers ?_
    intro http hmem
    have hleft := mem_httpLosers httpResult grpcResult hmem
    have hright := mem_httpLosers httpResult' grpcResult' (hhttp.accepted.mem_iff.mp hmem)
    refine hleft.trans (Iff.trans ?_ hright.symm)
    refine exists_congr fun grpc => ?_
    rw [hgrpc.accepted.mem_iff, conflicting_congr hhttp hgrpc, hhttp.crossTypeRoute,
      hgrpc.crossTypeRoute]
  · refine hgrpc.rejectCrossTypeLosers ?_
    intro grpc hmem
    have hleft := mem_grpcLosers httpResult grpcResult hmem
    have hright := mem_grpcLosers httpResult' grpcResult' (hgrpc.accepted.mem_iff.mp hmem)
    refine hleft.trans (Iff.trans ?_ hright.symm)
    refine exists_congr fun http => ?_
    rw [hhttp.accepted.mem_iff, conflicting_congr hhttp hgrpc, hhttp.crossTypeRoute,
      hgrpc.crossTypeRoute]

end InputOrder

section Exclusion

variable {HTTPRule GRPCRule : Type} (httpResult : RouteResult HTTPRule)
  (grpcResult : RouteResult GRPCRule)

/-- The HTTPRoute goes before the GRPCRoute. -/
def HTTPWins (http : Route HTTPRule) (grpc : Route GRPCRule) : Prop :=
  routeWins (crossTypeRoute httpResult http) (crossTypeRoute grpcResult grpc) = true

/-- The GRPCRoute goes before the HTTPRoute. -/
def GRPCWins (grpc : Route GRPCRule) (http : Route HTTPRule) : Prop :=
  routeWins (crossTypeRoute grpcResult grpc) (crossTypeRoute httpResult http) = true

theorem not_httpWins_iff (http : Route HTTPRule) (grpc : Route GRPCRule) :
    ¬ HTTPWins httpResult grpcResult http grpc ↔
      GRPCWins httpResult grpcResult grpc http ∨ Tied http grpc := by
  rw [HTTPWins, Bool.not_eq_true, not_routeWins_iff]
  refine or_congr_right (and_congr_right' ?_)
  exact NamespacedName.key_injective.eq_iff

theorem http_survives_iff (http : Route HTTPRule) :
    http ∈ (resolveCrossTypeConflicts httpResult grpcResult).1.accepted ↔
      http ∈ httpResult.accepted ∧ ∀ grpc ∈ grpcResult.accepted,
        Conflicting httpResult grpcResult http grpc → HTTPWins httpResult grpcResult http grpc := by
  rw [resolveCrossTypeConflicts_eq, mem_accepted_rejectCrossTypeLosers]
  refine and_congr_right fun hmem => ?_
  rw [mem_httpLosers httpResult grpcResult hmem]
  constructor
  · intro h grpc hgrpc hconflict
    by_contra hloses
    exact h ⟨grpc, hgrpc, hconflict, Bool.eq_false_iff.mpr hloses⟩
  · rintro h ⟨grpc, hgrpc, hconflict, hloses⟩
    exact Bool.eq_false_iff.mp hloses (h grpc hgrpc hconflict)

theorem grpc_survives_iff (grpc : Route GRPCRule) :
    grpc ∈ (resolveCrossTypeConflicts httpResult grpcResult).2.accepted ↔
      grpc ∈ grpcResult.accepted ∧ ∀ http ∈ httpResult.accepted,
        Conflicting httpResult grpcResult http grpc →
          GRPCWins httpResult grpcResult grpc http ∨ Tied http grpc := by
  rw [resolveCrossTypeConflicts_eq, mem_accepted_rejectCrossTypeLosers]
  refine and_congr_right fun hmem => ?_
  rw [mem_grpcLosers httpResult grpcResult hmem]
  constructor
  · intro h http hhttp hconflict
    rw [← not_httpWins_iff]
    intro hwins
    exact h ⟨http, hhttp, hconflict, hwins⟩
  · rintro h ⟨http, hhttp, hconflict, hwins⟩
    exact (not_httpWins_iff httpResult grpcResult http grpc).mpr (h http hhttp hconflict) hwins

/-- Two survivors are never in conflict. -/
theorem survivors_not_conflicting {http : Route HTTPRule} {grpc : Route GRPCRule}
    (hhttp : http ∈ (resolveCrossTypeConflicts httpResult grpcResult).1.accepted)
    (hgrpc : grpc ∈ (resolveCrossTypeConflicts httpResult grpcResult).2.accepted) :
    ¬ Conflicting httpResult grpcResult http grpc := by
  intro hconflict
  obtain ⟨hhttpmem, hhttpwins⟩ := (http_survives_iff httpResult grpcResult http).mp hhttp
  obtain ⟨hgrpcmem, hgrpcwins⟩ := (grpc_survives_iff httpResult grpcResult grpc).mp hgrpc
  exact (not_httpWins_iff httpResult grpcResult http grpc).mpr
    (hgrpcwins http hhttpmem hconflict) (hhttpwins grpc hgrpcmem hconflict)

/-- A route that was moved has no accepted parent left. -/
theorem moved_not_accepted {Rule : Type} {result : RouteResult Rule} {lost : List String}
    {route : Route Rule} (hmem : route ∈ result.accepted)
    (hmoved : route ∉ (rejectCrossTypeLosers result lost).accepted) :
    ∀ entry ∈ ((rejectCrossTypeLosers result lost).bindingOf route).bindingResults,
      entry.2.accepted = false := by
  apply not_accepted_of_lost result lost hmem
  by_contra hkept
  exact hmoved ((mem_accepted_rejectCrossTypeLosers result lost route).mpr ⟨hmem, hkept⟩)

/-- What the resolution does to the accepted routes of the two kinds. -/
theorem cross_type_exclusion :
    (∀ http ∈ (resolveCrossTypeConflicts httpResult grpcResult).1.accepted,
      ∀ grpc ∈ (resolveCrossTypeConflicts httpResult grpcResult).2.accepted,
        ¬ Conflicting (resolveCrossTypeConflicts httpResult grpcResult).1
          (resolveCrossTypeConflicts httpResult grpcResult).2 http grpc) ∧
    ((resolveCrossTypeConflicts httpResult grpcResult).1.accepted ++
      (resolveCrossTypeConflicts httpResult grpcResult).1.rejected).Perm
        (httpResult.accepted ++ httpResult.rejected) ∧
    ((resolveCrossTypeConflicts httpResult grpcResult).2.accepted ++
      (resolveCrossTypeConflicts httpResult grpcResult).2.rejected).Perm
        (grpcResult.accepted ++ grpcResult.rejected) ∧
    (∀ http ∈ httpResult.accepted,
      http ∉ (resolveCrossTypeConflicts httpResult grpcResult).1.accepted →
      ∀ entry ∈ ((resolveCrossTypeConflicts httpResult grpcResult).1.bindingOf
        http).bindingResults, entry.2.accepted = false) ∧
    (∀ grpc ∈ grpcResult.accepted,
      grpc ∉ (resolveCrossTypeConflicts httpResult grpcResult).2.accepted →
      ∀ entry ∈ ((resolveCrossTypeConflicts httpResult grpcResult).2.bindingOf
        grpc).bindingResults, entry.2.accepted = false) ∧
    (∀ http, http ∈ (resolveCrossTypeConflicts httpResult grpcResult).1.accepted ↔
      http ∈ httpResult.accepted ∧ ∀ grpc ∈ grpcResult.accepted,
        Conflicting httpResult grpcResult http grpc → HTTPWins httpResult grpcResult http grpc) ∧
    (∀ grpc, grpc ∈ (resolveCrossTypeConflicts httpResult grpcResult).2.accepted ↔
      grpc ∈ grpcResult.accepted ∧ ∀ http ∈ httpResult.accepted,
        Conflicting httpResult grpcResult http grpc →
          GRPCWins httpResult grpcResult grpc http ∨ Tied http grpc) ∧
    (∀ (httpResult' : RouteResult HTTPRule) (grpcResult' : RouteResult GRPCRule),
      SameUpToOrder httpResult httpResult' → SameUpToOrder grpcResult grpcResult' →
      SameUpToOrder (resolveCrossTypeConflicts httpResult grpcResult).1
        (resolveCrossTypeConflicts httpResult' grpcResult').1 ∧
      SameUpToOrder (resolveCrossTypeConflicts httpResult grpcResult).2
        (resolveCrossTypeConflicts httpResult' grpcResult').2) := by
  refine ⟨?_, perm_rejectCrossTypeLosers _ _, perm_rejectCrossTypeLosers _ _,
    fun _ hmem hmoved => moved_not_accepted hmem hmoved,
    fun _ hmem hmoved => moved_not_accepted hmem hmoved,
    http_survives_iff httpResult grpcResult, grpc_survives_iff httpResult grpcResult,
    fun _ _ hhttp hgrpc => sameUpToOrder_resolveCrossTypeConflicts hhttp hgrpc⟩
  intro http hhttp grpc hgrpc hconflict
  have hbefore : Conflicting httpResult grpcResult http grpc := by
    obtain ⟨⟨gateway, hleft, hright⟩, hhosts⟩ := hconflict
    rw [resolveCrossTypeConflicts_eq, acceptedGateways_rejectCrossTypeLosers] at hleft hright
    exact ⟨⟨gateway, hleft, hright⟩, hhosts⟩
  exact survivors_not_conflicting httpResult grpcResult hhttp hgrpc hbefore

end Exclusion

section SharedListeners

variable (cluster : Cluster) (lib : GoLib) (controllerName : String)
  {Rule HTTPRule GRPCRule : Type}

/-- A listener binds the route and both cover the host. -/
def EffectiveHost (kind : RouteKind) (route : Route Rule) (host : String) : Prop :=
  ∃ ref listener, Bound cluster lib kind route controllerName ref listener ∧
    Covers route listener host

/-- One listener of one object binds both routes. -/
def SharesListener (http : Route HTTPRule) (grpc : Route GRPCRule) : Prop :=
  ∃ ref ref' listener, Bound cluster lib .HTTPRoute http controllerName ref listener ∧
    Bound cluster lib .GRPCRoute grpc controllerName ref' listener ∧
    parentObject http.id.ns ref = parentObject grpc.id.ns ref'

/-- The listener-level conflict: a common listener and a common effective host. -/
def RealConflict (http : Route HTTPRule) (grpc : Route GRPCRule) : Prop :=
  SharesListener cluster lib controllerName http grpc ∧
    ∃ host, Concrete host ∧ EffectiveHost cluster lib controllerName .HTTPRoute http host ∧
      EffectiveHost cluster lib controllerName .GRPCRoute grpc host

variable {cluster lib controllerName}

variable {route : Route Rule} {kind : RouteKind} {host : String}

/-- A binding listener belongs to the Gateway its object leads to, and the route
is accepted there. -/
theorem acceptedGatewayKey_of_bound {ref : ParentReference} {listener : Listener}
    (h : Bound cluster lib kind route controllerName ref listener) :
    ∃ gateway, namedGateway cluster route.id.ns ref = some gateway ∧
      acceptedGatewayKey cluster lib controllerName kind route ref = some gateway.id.key := by
  obtain ⟨binding, hresolve, hok, -⟩ := h.binding
  obtain ⟨gateway, hnamed, -, hid⟩ := namedGateway_of_resolve cluster lib controllerName hresolve
  refine ⟨gateway, hnamed, ?_⟩
  simp [acceptedGatewayKey, hresolve, hok, ParentRefBinding.gatewayKey, hid]

/-- A concrete host is in lower case already. -/
theorem anyMatches_of_answers {hostnames : List Hostname} (hconcrete : Concrete host)
    (h : Answers hostnames host) : AnyMatches lib hostnames host := by
  obtain ⟨p, -, rfl⟩ := hconcrete
  rw [anyMatches_iff, toLower_value]
  exact h

theorem anyMatches_of_effectiveHost (hconcrete : Concrete host)
    (h : EffectiveHost cluster lib controllerName kind route host) :
    AnyMatches lib route.hostnames host := by
  obtain ⟨ref, listener, -, hcovers⟩ := h
  exact anyMatches_of_answers hconcrete hcovers.2

variable {ownership : String → List Hostname → Option String}

/-- A conflict on a listener is one the resolution sees. -/
theorem conflicting_of_realConflict {httpResult : RouteResult HTTPRule}
    {grpcResult : RouteResult GRPCRule}
    (hhttp : FromBinding cluster lib controllerName ownership .HTTPRoute httpResult)
    (hgrpc : FromBinding cluster lib controllerName ownership .GRPCRoute grpcResult)
    {http : Route HTTPRule} {grpc : Route GRPCRule} (hhttpmem : http ∈ httpResult.accepted)
    (hgrpcmem : grpc ∈ grpcResult.accepted)
    (h : RealConflict cluster lib controllerName http grpc) :
    Conflicting httpResult grpcResult http grpc := by
  obtain ⟨⟨ref, ref', listener, hbound, hbound', hobject⟩, host, hconcrete, hhost, hhost'⟩ := h
  obtain ⟨gateway, hnamed, hkey⟩ := acceptedGatewayKey_of_bound hbound
  obtain ⟨gateway', hnamed', hkey'⟩ := acceptedGatewayKey_of_bound hbound'
  have hsame : gateway = gateway' := by
    rw [namedGateway, hobject] at hnamed
    exact Option.some.inj (hnamed.symm.trans hnamed')
  subst hsame
  refine ⟨⟨gateway.id.key, ?_, ?_⟩, ?_⟩
  · rw [hhttp.gateways http hhttpmem,
      mem_acceptedGateways cluster lib controllerName (hhttp.accepted http hhttpmem)]
    exact ⟨ref, hbound.listed, hkey⟩
  · rw [hgrpc.gateways grpc hgrpcmem,
      mem_acceptedGateways cluster lib controllerName (hgrpc.accepted grpc hgrpcmem)]
    exact ⟨ref', hbound'.listed, hkey'⟩
  · rw [hostnamesOverlap_iff lib]
    exact ⟨host, hconcrete, anyMatches_of_effectiveHost hconcrete hhost,
      anyMatches_of_effectiveHost hconcrete hhost'⟩

end SharedListeners

section Rejections

variable (cluster : Cluster) (lib : GoLib) (controllerName : String)
  (ownership : String → List Hostname → Option String) {HTTPRule GRPCRule : Type}

/-- The two routes are accepted on a common Gateway and declare a common host. -/
def GatewayConflict (httpResult : RouteResult HTTPRule) (grpcResult : RouteResult GRPCRule)
    (http : Route HTTPRule) (grpc : Route GRPCRule) : Prop :=
  (∃ gateway ∈ (httpResult.bindingOf http).acceptedGateways,
    gateway ∈ (grpcResult.bindingOf grpc).acceptedGateways) ∧
  ∃ host, Concrete host ∧ AnyMatches lib http.hostnames host ∧
    AnyMatches lib grpc.hostnames host

theorem gatewayConflict_iff (httpResult : RouteResult HTTPRule) (grpcResult : RouteResult GRPCRule)
    (http : Route HTTPRule) (grpc : Route GRPCRule) :
    GatewayConflict lib httpResult grpcResult http grpc ↔
      Conflicting httpResult grpcResult http grpc := by
  rw [GatewayConflict, Conflicting, hostnamesOverlap_iff lib]

/-- A route is turned down only for a conflict on a Gateway, and a conflict on a
listener never leaves both routes. -/
theorem cross_type_rejection (httpRoutes : RouteList HTTPRule) (grpcRoutes : RouteList GRPCRule) :
    let httpResult :=
      getRelevantRoutes cluster lib controllerName ownership .HTTPRoute httpRoutes
    let grpcResult :=
      getRelevantRoutes cluster lib controllerName ownership .GRPCRoute grpcRoutes
    let resolved := resolveCrossTypeConflicts httpResult grpcResult
    (∀ http ∈ httpResult.accepted, http ∉ resolved.1.accepted →
      ∃ grpc ∈ grpcResult.accepted, GatewayConflict lib httpResult grpcResult http grpc) ∧
    (∀ grpc ∈ grpcResult.accepted, grpc ∉ resolved.2.accepted →
      ∃ http ∈ httpResult.accepted, GatewayConflict lib httpResult grpcResult http grpc) ∧
    ∀ http ∈ httpResult.accepted, ∀ grpc ∈ grpcResult.accepted,
      RealConflict cluster lib controllerName http grpc →
        GatewayConflict lib httpResult grpcResult http grpc ∧
          ¬ (http ∈ resolved.1.accepted ∧ grpc ∈ resolved.2.accepted) := by
  intro httpResult grpcResult resolved
  simp only [gatewayConflict_iff]
  refine ⟨?_, ?_, ?_⟩
  · intro http hmem hmoved
    rw [http_survives_iff] at hmoved
    simp only [hmem, true_and, not_forall] at hmoved
    obtain ⟨grpc, hgrpc, hconflict, -⟩ := hmoved
    exact ⟨grpc, hgrpc, hconflict⟩
  · intro grpc hmem hmoved
    rw [grpc_survives_iff] at hmoved
    simp only [hmem, true_and, not_forall] at hmoved
    obtain ⟨http, hhttp, hconflict, -⟩ := hmoved
    exact ⟨http, hhttp, hconflict⟩
  · intro http hhttp grpc hgrpc hreal
    have hconflict := conflicting_of_realConflict
      (fromBinding_getRelevantRoutes cluster lib controllerName ownership .HTTPRoute httpRoutes)
      (fromBinding_getRelevantRoutes cluster lib controllerName ownership .GRPCRoute grpcRoutes)
      hhttp hgrpc hreal
    refine ⟨hconflict, ?_⟩
    rintro ⟨hhttpkept, hgrpckept⟩
    exact survivors_not_conflicting httpResult grpcResult hhttpkept hgrpckept hconflict

end Rejections

section Examples

def listenerA : Listener := ⟨"a", ofString? "a.com", 80, .http, none⟩

def listenerB : Listener := ⟨"b", ofString? "b.com", 80, .http, none⟩

theorem nodup_listeners : ([listenerA, listenerB].map Listener.name).Nodup := by decide

/-- One Gateway whose two listeners have disjoint hostnames. -/
def twoListeners : Cluster where
  gateways := [⟨.of "apps" "edge", "cloudflare", [listenerA, listenerB], none, none,
    nodup_listeners⟩]
  listenerSets := []
  gatewayClasses := [⟨"cloudflare", "example.com/tunnel"⟩]
  namespaces := []
  labelSelectorAsSelector _ := none

def sectionRef (name : String) : ParentReference := ⟨none, none, none, "edge", some name, none⟩

/-- A route without hostnames at one of the listeners. -/
def sectionRoute (name : String) (created : ℤ) : Route Unit :=
  ⟨.of "apps" name, created, [sectionRef name], [], []⟩

/-- The routes of one kind when there is only this one. -/
def onlyRoute (kind : RouteKind) (name : String) (created : ℤ) : RouteCollection.RouteResult Unit :=
  getRelevantRoutes twoListeners GoLib.literal "example.com/tunnel" (fun _ _ => none) kind
    ⟨[sectionRoute name created], List.nodup_singleton _⟩

/-- Two routes without hostnames at the two listeners: the younger one is turned
down, although the routes share neither a listener nor a host. -/
theorem disjoint_listeners_conflict :
    let http := sectionRoute "a" 1
    let grpc := sectionRoute "b" 2
    let httpResult := onlyRoute .HTTPRoute "a" 1
    let grpcResult := onlyRoute .GRPCRoute "b" 2
    http ∈ httpResult.accepted ∧ grpc ∈ grpcResult.accepted ∧
      grpc ∉ (resolveCrossTypeConflicts httpResult grpcResult).2.accepted ∧
      ¬ SharesListener twoListeners GoLib.literal "example.com/tunnel" http grpc ∧
      ¬ ∃ host, EffectiveHost twoListeners GoLib.literal "example.com/tunnel" .HTTPRoute http host ∧
        EffectiveHost twoListeners GoLib.literal "example.com/tunnel" .GRPCRoute grpc host := by
  intro http grpc httpResult grpcResult
  have hhttp : ∀ ref ∈ http.parentRefs, ∀ l ∈ parentListeners twoListeners http.id.ns ref, l.name ∈
      boundSections twoListeners GoLib.literal .HTTPRoute http "example.com/tunnel" ref →
        l = listenerA := by decide +kernel
  have hgrpc : ∀ ref ∈ grpc.parentRefs, ∀ l ∈ parentListeners twoListeners grpc.id.ns ref, l.name ∈
      boundSections twoListeners GoLib.literal .GRPCRoute grpc "example.com/tunnel" ref →
        l = listenerB := by decide +kernel
  have hresolved : http ∈ httpResult.accepted ∧ grpc ∈ grpcResult.accepted ∧
      grpc ∉ (resolveCrossTypeConflicts httpResult grpcResult).2.accepted := by decide +kernel
  refine ⟨hresolved.1, hresolved.2.1, hresolved.2.2, ?_, ?_⟩
  · rintro ⟨ref, ref', listener, hbound, hbound', -⟩
    have hA := hhttp ref hbound.listed listener hbound.declared hbound.accepted
    have hB := hgrpc ref' hbound'.listed listener hbound'.declared hbound'.accepted
    exact absurd (hA.symm.trans hB) (by decide)
  · rintro ⟨host, ⟨ref, listener, hbound, hcovers⟩, ref', listener', hbound', hcovers'⟩
    obtain rfl := hhttp ref hbound.listed listener hbound.declared hbound.accepted
    obtain rfl := hgrpc ref' hbound'.listed listener' hbound'.declared hbound'.accepted
    have hhost : host.toList = "a.com".toList := hcovers.1 _ rfl
    have hhost' : host.toList = "b.com".toList := hcovers'.1 _ rfl
    exact absurd (hhost.symm.trans hhost') (by decide)

end Examples

end TunnelGateway.CrossTypeConflicts
