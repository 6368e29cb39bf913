import TunnelGateway.RouteOrigin
import TunnelGateway.RouteStatus
import TunnelGateway.ShadowDetection

/-!
Whose diagnostics reach whose status. The diagnostics of one sync are collected
over all partitions from the converters, the shadow detector, the pushes and the
tunnel collisions, and each route is handed the ones with its namespace and
name. Beside every diagnostic stands here the kind of the route it was produced
for, which the source does not keep.
-/
namespace TunnelGateway.StatusSelection

open GoText GatewayApi RouteSpec RouteConversion BuildConfig BackendFate FailedRefs RouteOrigin
open RouteDiagnostics ShadowDetection RouteStatus

/-- A diagnostic and the kind of the route it is about. -/
structure Produced where
  kind : RouteKind
  diagnostic : RouteDiagnostic
  deriving DecidableEq

def Produced.id (p : Produced) : String × String := (p.diagnostic.ns, p.diagnostic.name)

section Production

/-- One partition of a sync: its own routes, the routes pushed to its data plane
(those of every partition on its tunnel), and whether the push has failed for
long enough to be reported. -/
structure PartitionRun where
  key : String
  own : RouteSet
  pushed : RouteSet
  failedRefs : List BackendRefError
  grpcFailedRefs : List BackendRefError
  version : ℤ
  pushFailing : Bool

/-- A sync: its partitions, and for each partition that shares a tunnel across
namespaces its routes and the message about it. -/
structure SyncRun where
  partitions : List PartitionRun
  collisions : List (RouteSet × String)

variable (s : ProxySyncer) (sorts : SortFunc) (httpFindings : HTTPRoute → List Finding)
  (grpcFindings : GRPCRoute → List Finding)

/-- The findings of one converter in the order in which it takes the routes. -/
def converterDiagnostics {Rule : Type} (kind : RouteKind) (findings : Route Rule → List Finding)
    (routes : List (Route Rule)) : List Produced :=
  (sortRoutesByPrecedence routes).flatMap fun route =>
    (findings route).map fun finding => ⟨kind, finding.stamp route.id⟩

def shadowProduced (built : BuiltConfig) : List Produced :=
  (shadowings (shadowClaims s.lib sorts (built.rules.map (·.provenance)) built.config)).map
    fun shadowing => ⟨shadowing.claim.claimant.provenance.kind, shadowing.diagnostic⟩

/-- What `buildProxyConfig` leaves in `Diagnostics`. -/
def configDiagnostics (run : PartitionRun) : List Produced :=
  converterDiagnostics .HTTPRoute httpFindings (s.preparedHTTPRoutes run.pushed.http) ++
  converterDiagnostics .GRPCRoute grpcFindings (s.preparedGRPCRoutes run.pushed.grpc) ++
  shadowProduced s sorts (s.buildProxyConfig run.version run.pushed.http run.pushed.grpc
    run.failedRefs run.grpcFailedRefs)

/-- The same message for every route of a partition. -/
def forRoutes (routes : RouteSet) (target : DiagnosticTarget) (reason message : String) :
    List Produced :=
  (partitionRouteDiagnostics (routes.http.map (·.id)) target reason message).map
      (Produced.mk .HTTPRoute) ++
    (partitionRouteDiagnostics (routes.grpc.map (·.id)) target reason message).map
      (Produced.mk .GRPCRoute)

def pushFailureMessage (key : String) : String :=
  "the controller could not push this route's config to its data plane (partition " ++ key.quote ++
    ") after sustained retries; matching requests are served 502 until the push recovers — " ++
    "check the proxy pods' health and the config-API NetworkPolicy. This route remains Accepted."

/-- The diagnostics of a sync, in the order of the source. -/
def producedBy (run : SyncRun) : List Produced :=
  (run.partitions.flatMap fun partitionRun =>
    configDiagnostics s sorts httpFindings grpcFindings partitionRun ++
      (if partitionRun.pushFailing then
        forRoutes partitionRun.own .proxyConfigPush "ProxyConfigPushFailed"
          (pushFailureMessage partitionRun.key)
      else [])) ++
  run.collisions.flatMap fun collision =>
    forRoutes collision.1 .tunnelShared "TunnelSharedAcrossNamespaces" collision.2

/-- The list the status entries are built from. -/
def erase (produced : List Produced) : List RouteDiagnostic := produced.map (·.diagnostic)

end Production

section Isolation

/-- The diagnostics produced for one route. -/
def ownDiagnostics (produced : List Produced) (kind : RouteKind) (id : NamespacedName) :
    List RouteDiagnostic :=
  erase (produced.filter fun p => p.kind = kind ∧ p.id = (id.ns, id.name))

/-- No diagnostic for a route of the other kind bears the name of this one. -/
def NoNamesake (produced : List Produced) (kind : RouteKind) (id : NamespacedName) : Prop :=
  ∀ p ∈ produced, p.id = (id.ns, id.name) → p.kind = kind

theorem filterDiagnostics_erase (produced : List Produced) (id : NamespacedName) :
    filterDiagnostics (erase produced) id.ns id.name =
      erase (produced.filter fun p => p.id = (id.ns, id.name)) := by
  rw [filterDiagnostics, erase, List.filter_map]
  congr 1
  apply List.filter_congr
  intro p _
  simp [Produced.id]

/-- What a route is handed is its own exactly when it has no namesake. -/
theorem filterDiagnostics_eq_own_iff (produced : List Produced) (kind : RouteKind)
    (id : NamespacedName) :
    filterDiagnostics (erase produced) id.ns id.name = ownDiagnostics produced kind id ↔
      NoNamesake produced kind id := by
  rw [filterDiagnostics_erase, ownDiagnostics]
  have hfilter : (produced.filter fun p => p.kind = kind ∧ p.id = (id.ns, id.name)) =
      (produced.filter fun p => p.id = (id.ns, id.name)).filter (·.kind = kind) := by
    simp
  rw [hfilter]
  constructor
  · intro h p hp hid
    have hlen := congrArg List.length h
    rw [erase, erase, List.length_map, List.length_map] at hlen
    have hall := List.length_filter_eq_length_iff.mp hlen.symm
    exact of_decide_eq_true (hall p (List.mem_filter.mpr ⟨hp, decide_eq_true hid⟩))
  · intro h
    have hself : (produced.filter fun p => p.id = (id.ns, id.name)).filter (·.kind = kind) =
        produced.filter fun p => p.id = (id.ns, id.name) := by
      apply List.filter_eq_self.mpr
      intro p hp
      obtain ⟨hmem, hid⟩ := List.mem_filter.mp hp
      exact decide_eq_true (h p hmem (of_decide_eq_true hid))
    rw [hself]

/-- Every accepted route is handed the diagnostics produced for it and no others. -/
def ReceivesOwn {Rule : Type} (kind : RouteKind) (result : KindResult Rule)
    (produced : List Produced) : Prop :=
  ∀ entry ∈ buildStatusEntries result.accepted result.bindings result.failedRefs (erase produced),
    entry.diagnostics = ownDiagnostics produced kind entry.id

variable (s : ProxySyncer) (sorts : SortFunc) (httpFindings : HTTPRoute → List Finding)
  (grpcFindings : GRPCRoute → List Finding)

/-- What is written for a route whose diagnostics are these. -/
def written (selects : ParentReference → Bool) (update : StatusUpdate) (route : RouteObject)
    (diagnostics : List RouteDiagnostic) : Option (List RouteParentStatus) :=
  updateRouteParentStatuses selects { update with diagnostics := diagnostics } route

/-- The routes of one kind receive exactly their own diagnostics of a sync when
none of them has a namesake among the diagnosed routes of the other kind; then
what is written for them depends on nothing else of the sync. -/
theorem status_isolated_iff {Rule : Type} (kind : RouteKind) (result : KindResult Rule)
    (run : SyncRun) :
    (ReceivesOwn kind result (producedBy s sorts httpFindings grpcFindings run) ↔
      ∀ route ∈ result.accepted,
        NoNamesake (producedBy s sorts httpFindings grpcFindings run) kind route.id) ∧
    ∀ (id : NamespacedName) (run' : SyncRun),
      NoNamesake (producedBy s sorts httpFindings grpcFindings run) kind id →
      NoNamesake (producedBy s sorts httpFindings grpcFindings run') kind id →
      ownDiagnostics (producedBy s sorts httpFindings grpcFindings run) kind id =
        ownDiagnostics (producedBy s sorts httpFindings grpcFindings run') kind id →
      ∀ selects update object,
        written selects update object (filterDiagnostics
          (erase (producedBy s sorts httpFindings grpcFindings run)) id.ns id.name) =
        written selects update object (filterDiagnostics
          (erase (producedBy s sorts httpFindings grpcFindings run')) id.ns id.name) := by
  refine ⟨?_, ?_⟩
  · unfold ReceivesOwn buildStatusEntries
    rw [List.forall_mem_map]
    exact forall₂_congr fun route _ => filterDiagnostics_eq_own_iff _ kind route.id
  intro id run' hrun hrun' hown selects update object
  rw [(filterDiagnostics_eq_own_iff _ kind id).mpr hrun,
    (filterDiagnostics_eq_own_iff _ kind id).mpr hrun', hown]

end Isolation

section Fixtures

def bareSyncer : ProxySyncer where
  objects :=
    { gateways := []
      listenerSets := []
      gatewayClasses := []
      namespaces := []
      labelSelectorAsSelector := fun _ => none
      parsesCABundle := fun _ => true
      x509KeyPair := fun _ _ => true }
  lib := .literal
  clusterDomain := "cluster.local"
  controllerName := "example.com/tunnel"

def blogFront : HTTPRoute := ⟨.of "blog" "front", 100, [], [], [{}]⟩
def shopHTTP : HTTPRoute := ⟨.of "shop" "api", 200, [], [], [{}]⟩
def shopGRPC : GRPCRoute :=
  ⟨.of "shop" "api", 50, [], [],
    [{ routeMatches := [{ method := some { service := some "shop.Orders" } }] }]⟩

theorem httpPair_nodup : ([blogFront, shopHTTP].map Route.id).Nodup := by
  decide

def httpPair : RouteSet := ⟨[blogFront, shopHTTP], [], httpPair_nodup, List.nodup_nil⟩

def namesakes : RouteSet :=
  ⟨[blogFront, shopHTTP], [shopGRPC], httpPair_nodup, List.nodup_singleton _⟩

/-- One partition with an HTTPRoute that another one shadows, and a GRPCRoute of
the same name. -/
def namesakeRun : SyncRun where
  partitions := [⟨"shared", namesakes, namesakes, [], [], 1, false⟩]
  collisions := []

def grpcResult : KindResult GRPCRouteRule where
  accepted := [shopGRPC]
  rejected := []
  bindings := []
  failedRefs := []

def producedInRun (run : SyncRun) : List Produced :=
  producedBy bareSyncer .stable (fun _ => []) (fun _ => []) run

/-- The conditions written for an accepted route on its only parent. -/
def conditionTypes (diagnostics : List RouteDiagnostic) : List String :=
  (buildConditions
    { controllerName := "example.com/tunnel", diagnostics := diagnostics, reconciledGeneration := 1,
      binding := ⟨.empty, []⟩ } 1 1 0).map (·.type)

/-- The only diagnostic of the sync is about the HTTPRoute; the GRPCRoute of the
same name is reported as shadowed. -/
theorem grpc_namesake_reported_shadowed :
    (producedInRun namesakeRun).map (fun p => (p.kind, p.id)) = [(.HTTPRoute, ("shop", "api"))] ∧
      (statusEntries grpcResult (erase (producedInRun namesakeRun))).map
        (fun entry => conditionTypes entry.diagnostics) =
          [["Accepted", "ResolvedRefs", "cf.k8s.lex.la/RouteShadowed"]] ∧
      conditionTypes (ownDiagnostics (producedInRun namesakeRun) .GRPCRoute shopGRPC.id) =
        ["Accepted", "ResolvedRefs"] := by
  decide +kernel

/-- Without the GRPCRoute the HTTPRoutes receive their own. -/
def httpRun : SyncRun where
  partitions := [⟨"shared", httpPair, httpPair, [], [], 1, false⟩]
  collisions := []

def httpResult : KindResult HTTPRouteRule where
  accepted := [blogFront, shopHTTP]
  rejected := []
  bindings := []
  failedRefs := []

theorem httpRun_isolated : ReceivesOwn .HTTPRoute httpResult (producedInRun httpRun) := by
  have hiff := (status_isolated_iff bareSyncer .stable (fun _ => []) (fun _ => []) .HTTPRoute
    httpResult httpRun).1
  have hnone : ∀ route ∈ httpResult.accepted, ∀ p ∈ producedInRun httpRun,
      p.id = (route.id.ns, route.id.name) → p.kind = .HTTPRoute := by
    decide +kernel
  exact hiff.mpr hnone

end Fixtures

end TunnelGateway.StatusSelection
