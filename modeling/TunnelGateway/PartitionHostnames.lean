import TunnelGateway.EffectiveHostnames
import TunnelGateway.Partition
import TunnelGateway.RoutingOptimality

/-!
Hosts a partition's configuration answers. Routes are assigned to partitions by
the Gateways that accept them, but their hostnames are collected over all of
their parents: the pass has no partition argument. A route that reaches a
partition through one Gateway brings along the hosts of every other parent.
-/
namespace TunnelGateway.PartitionHostnames

open GoText SuffixPattern Hostname GatewayApi ParentBinding RouteCollection EffectiveHostnames
  TunnelGateway.Partition ProxyConfig RoutingOptimality

variable {host : String} {hostnames : List Hostname} {rule : RouteRule}

theorem not_isWildcard_of_concreteHost {p : Hostname} (hhost : ConcreteHost host)
    (hvalue : p.value = host) : p.isWildcard = false := by
  rw [Bool.eq_false_iff]
  intro hwild
  obtain ⟨name, hname⟩ := p.toList_of_isWildcard hwild
  rw [ConcreteHost, ← hvalue, hname] at hhost
  have hstar : isLowerAlnum '*' = false := by decide
  simp [acceptsName, hstar] at hhost

/-- A configuration rule with these hostnames is filed for exactly the hosts they
match. -/
theorem filed_iff_answers (lib : GoLib) (hrule : rule.hostnames = hostnames.map Hostname.value)
    (host : String) : (∃ bucket, Filed lib host rule bucket) ↔ Answers hostnames host := by
  constructor
  · intro h
    obtain ⟨bucket, hbucket⟩ := h
    cases bucket with
    | exact =>
      obtain ⟨value, hvalue, hnot, hlower⟩ := hbucket
      rw [hrule] at hvalue
      obtain ⟨p, hp, rfl⟩ := List.mem_map.mp hvalue
      rw [toLower_value] at hnot hlower
      refine Or.inr ⟨p, hp, ?_⟩
      rw [Hostname.Matches, pattern_of_not_isWildcard hnot, hlower]
      rfl
    | wildcard suffix =>
      obtain ⟨⟨value, hvalue, hstar, hslice⟩, hsuffix, hne⟩ := hbucket
      rw [hrule] at hvalue
      obtain ⟨p, hp, rfl⟩ := List.mem_map.mp hvalue
      rw [toLower_value] at hstar hslice
      refine Or.inr ⟨p, hp, ?_⟩
      rw [Hostname.Matches, pattern_of_isWildcard hstar, hslice]
      exact ⟨hsuffix, fun heq => hne (String.toList_inj.mp heq).symm⟩
    | default =>
      change rule.hostnames = [] at hbucket
      rw [hrule, List.map_eq_nil_iff] at hbucket
      exact Or.inl hbucket
  · intro h
    rcases h with hnil | ⟨p, hp, hmatch⟩
    · refine ⟨.default, ?_⟩
      change rule.hostnames = []
      rw [hrule, hnil, List.map_nil]
    · have hvalue : p.value ∈ rule.hostnames := by
        rw [hrule]
        exact List.mem_map_of_mem hp
      rw [Hostname.Matches] at hmatch
      cases hwild : p.isWildcard with
      | true =>
        rw [pattern_of_isWildcard hwild] at hmatch
        refine ⟨.wildcard (sliceFrom p.value 1), ⟨p.value, hvalue, ?_, ?_⟩, hmatch.1, ?_⟩
        · rw [toLower_value]
          exact hwild
        · rw [toLower_value]
        · exact fun heq => hmatch.2 (congrArg String.toList heq.symm)
      | false =>
        rw [pattern_of_not_isWildcard hwild] at hmatch
        refine ⟨.exact, p.value, hvalue, ?_, ?_⟩
        · rw [toLower_value]
          exact hwild
        · rw [toLower_value]
          exact (String.toList_inj.mp hmatch).symm

/-- A concrete host is no wildcard, so the rule answers it where it is filed. -/
theorem inBucket_iff_answers (lib : GoLib) (hrule : rule.hostnames = hostnames.map Hostname.value)
    (hhost : ConcreteHost host) :
    (∃ bucket, InBucket lib host rule bucket) ↔ Answers hostnames host := by
  rw [← filed_iff_answers lib hrule host]
  refine exists_congr fun bucket => ?_
  cases bucket with
  | exact =>
    constructor
    · intro h
      obtain ⟨value, hvalue, hlower⟩ := h
      have hmem := hvalue
      rw [hrule] at hmem
      obtain ⟨p, -, rfl⟩ := List.mem_map.mp hmem
      refine ⟨p.value, hvalue, ?_, hlower⟩
      rw [toLower_value] at hlower ⊢
      exact not_isWildcard_of_concreteHost hhost hlower
    · intro h
      obtain ⟨value, hvalue, -, hlower⟩ := h
      exact ⟨value, hvalue, hlower⟩
  | wildcard suffix => exact Iff.rfl
  | default => exact Iff.rfl

section Confinement

variable (cluster : Cluster) (lib : GoLib) (controllerName : String) (infra : InfraGateways)
  (sharedTunnelID : String) {Rule HTTPRule GRPCRule : Type}
  (partitions : List (RoutePartition HTTPRule GRPCRule)) (kind : RouteKind) (route : Route Rule)

/-- The reference is accepted by a Gateway whose own partition has this tunnel. -/
def OnTunnel (tunnelID : String) (ref : ParentReference) : Prop :=
  ∃ key ∈ acceptedGatewayKey cluster lib controllerName kind route ref, ∃ q ∈ partitions,
    ownPartitionKey infra key = some q.key ∧ tunnelOf sharedTunnelID q = tunnelID

instance (tunnelID : String) (ref : ParentReference) :
    Decidable (OnTunnel cluster lib controllerName infra sharedTunnelID partitions kind route
      tunnelID ref) :=
  inferInstanceAs (Decidable (∃ key ∈ acceptedGatewayKey cluster lib controllerName kind route ref,
    ∃ q ∈ partitions, ownPartitionKey infra key = some q.key ∧
      tunnelOf sharedTunnelID q = tunnelID))

/-- A listener on this tunnel binds the route and covers the host. -/
def ServedOn (tunnelID host : String) : Prop :=
  ∃ ref listener, Bound cluster lib kind route controllerName ref listener ∧
    OnTunnel cluster lib controllerName infra sharedTunnelID partitions kind route tunnelID ref ∧
    Covers route listener host

/-- Every host answered by rules with the route's served hostnames is served on
this tunnel. -/
def HostsConfined (tunnelID : String) : Prop :=
  ∀ rule : RouteRule,
    rule.hostnames = (servedHostnames cluster lib kind route).map Hostname.value →
    ∀ host, ConcreteHost host → (∃ bucket, InBucket lib host rule bucket) →
      ServedOn cluster lib controllerName infra sharedTunnelID partitions kind route tunnelID host

/-- What reaches the hostname pass from outside the tunnel adds no host: neither
a read listener that does not bind the route on this tunnel, nor, when no
listener is read at all, the hostnames the route declares. -/
structure OthersAddNoHost (tunnelID : String) : Prop where
  listeners : ∀ ref listener, Contributing cluster lib kind route ref listener →
    ¬ (Bound cluster lib kind route controllerName ref listener ∧
      OnTunnel cluster lib controllerName infra sharedTunnelID partitions kind route tunnelID
        ref) →
    ∀ host, ConcreteHost host → Covers route listener host →
      ServedOn cluster lib controllerName infra sharedTunnelID partitions kind route tunnelID host
  declared : (¬ ∃ ref listener, Contributing cluster lib kind route ref listener) →
    ∀ host, ConcreteHost host → Answers route.hostnames host →
      ServedOn cluster lib controllerName infra sharedTunnelID partitions kind route tunnelID host

variable {cluster lib controllerName infra sharedTunnelID partitions kind route}

theorem servedHostnames_of_unread
    (hunread : ¬ ∃ ref listener, Contributing cluster lib kind route ref listener) :
    servedHostnames cluster lib kind route = route.hostnames := by
  have hstream : route.parentRefs.flatMap (effectiveHostnamesForParentRef cluster lib kind route) =
      [] := by
    rw [List.eq_nil_iff_forall_not_mem]
    intro o ho
    obtain ⟨ref, listener, hpair, -⟩ := (mem_stream cluster lib kind route o).mp ho
    exact hunread ⟨ref, listener, hpair⟩
  simp [servedHostnames, collectEffectiveListenerHostnames, hstream, DedupBy.dedupBy]

theorem hostsConfined_iff_served (tunnelID : String) :
    HostsConfined cluster lib controllerName infra sharedTunnelID partitions kind route tunnelID ↔
      ∀ host, ConcreteHost host → Answers (servedHostnames cluster lib kind route) host →
        ServedOn cluster lib controllerName infra sharedTunnelID partitions kind route tunnelID
          host := by
  constructor
  · intro h host hhost hanswers
    let rule : RouteRule :=
      { hostnames := (servedHostnames cluster lib kind route).map Hostname.value }
    exact h rule rfl host hhost ((inBucket_iff_answers lib rfl hhost).mpr hanswers)
  · intro h rule hrule host hhost hbucket
    exact h host hhost ((inBucket_iff_answers lib hrule hhost).mp hbucket)

theorem hostsConfined_iff (tunnelID : String) :
    HostsConfined cluster lib controllerName infra sharedTunnelID partitions kind route tunnelID ↔
      OthersAddNoHost cluster lib controllerName infra sharedTunnelID partitions kind route
        tunnelID := by
  rw [hostsConfined_iff_served]
  constructor
  · intro h
    constructor
    · intro ref listener hpair _ host hhost hcovers
      exact h host hhost
        ((answers_servedHostnames ⟨ref, listener, hpair⟩ host).mpr ⟨ref, listener, hpair, hcovers⟩)
    · intro hunread host hhost hanswers
      rw [servedHostnames_of_unread hunread] at h
      exact h host hhost hanswers
  · intro h host hhost hanswers
    by_cases hread : ∃ ref listener, Contributing cluster lib kind route ref listener
    · obtain ⟨ref, listener, hpair, hcovers⟩ := (answers_servedHostnames hread host).mp hanswers
      by_cases hon : Bound cluster lib kind route controllerName ref listener ∧
          OnTunnel cluster lib controllerName infra sharedTunnelID partitions kind route tunnelID
            ref
      · exact ⟨ref, listener, hon.1, hon.2, hcovers⟩
      · exact h.listeners ref listener hpair hon host hhost hcovers
    · rw [servedHostnames_of_unread hread] at hanswers
      exact h.declared hread host hhost hanswers

end Confinement

section Assembly

variable (cluster : Cluster) (lib : GoLib) (controllerName : String)
  (ownership : String → List Hostname → Option String) (infra : InfraGateways)
  (shared : ResolvedConfig) {Rule HTTPRule GRPCRule : Type}

/-- The partitions of one sync, before the union over a tunnel. -/
def syncPartitions (httpRoutes : RouteList HTTPRule) (grpcRoutes : RouteList GRPCRule) :
    List (RoutePartition HTTPRule GRPCRule) :=
  let results := resolveCrossTypeConflicts
    (getRelevantRoutes cluster lib controllerName ownership .HTTPRoute httpRoutes)
    (getRelevantRoutes cluster lib controllerName ownership .GRPCRoute grpcRoutes)
  partitionRoutes infra results.1 results.2

variable {cluster lib controllerName ownership infra shared}

/-- A route is in a partition because some parent accepts it on the tunnel. -/
theorem exists_onTunnel {kind : RouteKind} {result : RouteResult Rule}
    (hresult : FromBinding cluster lib controllerName ownership kind result)
    {partitions : List (RoutePartition HTTPRule GRPCRule)}
    {routesOf : RoutePartition HTTPRule GRPCRule → List (Route Rule)}
    {groupRoutesOf : TunnelGroup HTTPRule GRPCRule → List (Route Rule)}
    (hroutes : ∀ p ∈ partitions, routesOf p = routesFor infra result p.key)
    (hlockstep : InLockstep shared partitions routesOf groupRoutesOf)
    {p : RoutePartition HTTPRule GRPCRule}
    (hp : p ∈ unionPartitionRoutes shared.tunnelID partitions) {route : Route Rule}
    (hroute : route ∈ routesOf p) :
    ∃ ref ∈ route.parentRefs, OnTunnel cluster lib controllerName infra shared.tunnelID partitions
      kind route (tunnelOf shared.tunnelID p) ref := by
  obtain ⟨q, hq, htunnel, hmem⟩ := (hlockstep.contains p hp route).mp hroute
  rw [hroutes q hq, mem_routesFor] at hmem
  obtain ⟨key, hkey, hown⟩ := exists_ownPartitionKey infra hmem.2
  rw [hresult.gateways route hmem.1] at hkey
  obtain ⟨ref, href, haccepts⟩ := (mem_acceptedGateways cluster lib controllerName
    (hresult.accepted route hmem.1) key).mp hkey
  exact ⟨ref, href, key, haccepts, q, hq, hown, htunnel⟩

end Assembly

section Examples

def gatewayFor (name host : String) : Gateway :=
  .withListener (.of "apps" name) "cloudflare" ⟨"web", ofString? host, 80, .http, none⟩ none

def edgeGateway : Gateway := gatewayFor "edge" "a.com"
def tenantGateway : Gateway := gatewayFor "tenant" "b.com"

def oneClass : Cluster where
  gateways := [edgeGateway, tenantGateway]
  listenerSets := []
  gatewayClasses := [⟨"cloudflare", "example.com/tunnel"⟩]
  namespaces := []
  labelSelectorAsSelector _ := none

def bothParents : Route Unit where
  id := .of "apps" "site"
  creationTimestamp := 0
  parentRefs := [⟨none, none, none, "edge", none, none⟩, ⟨none, none, none, "tenant", none, none⟩]
  hostnames := []
  rules := []

def oneRoute : RouteList Unit := ⟨[bothParents], by simp⟩
def noRoutes : RouteList Unit := ⟨[], by simp⟩

/-- The tenant's infrastructure does not resolve. -/
def tenantBroken : InfraGateways := ⟨[], [tenantGateway.id], by simp, by simp⟩

def classConfig : ResolvedConfig := ⟨"token", "account", "tunnel"⟩

def brokenPartitions : List (RoutePartition Unit Unit) :=
  syncPartitions oneClass .literal "example.com/tunnel" (fun _ _ => none) tenantBroken oneRoute
    noRoutes

/-- The tenant's plane shares the class's tunnel. -/
def tenantOnClassTunnel : InfraGateways where
  resolved := [⟨tenantGateway.id, ⟨classConfig, "secret"⟩⟩]
  broken := []
  resolved_nodup := by simp
  disjoint := by simp

def unitedPartitions : List (RoutePartition Unit Unit) :=
  syncPartitions oneClass .literal "example.com/tunnel" (fun _ _ => none) tenantOnClassTunnel
    oneRoute noRoutes

def tenantPartition : RoutePartition Unit Unit :=
  ⟨"apps/tenant", some tenantGateway.id, some ⟨classConfig, "secret"⟩, [bothParents], []⟩

end Examples

end TunnelGateway.PartitionHostnames
