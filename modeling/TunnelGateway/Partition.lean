import TunnelGateway.RouteCollection
import TunnelGateway.DedupBy

/-!
Assignment of accepted routes to data planes. A Gateway with its own resolved
infrastructure has its own partition; a Gateway whose infrastructure does not
resolve has none; every other Gateway belongs to the shared partition. Partitions
on one tunnel are then given the union of their routes, and independently the
tunnel documents are built from groups of partitions.
-/
namespace TunnelGateway.Partition

open Hostname GatewayApi ParentBinding RouteCollection DedupBy

def sharedPartitionKey : String := "shared"

structure ResolvedConfig where
  apiToken : String
  accountID : String
  tunnelID : String
  deriving DecidableEq

/-- The dedicated plane's tunnel identity and the token for its config API. -/
structure PerGatewayConfig where
  resolvedConfig : ResolvedConfig
  authToken : String
  deriving DecidableEq

structure InfraGateway where
  gateway : NamespacedName
  perGateway : PerGatewayConfig

/-- The opted-in Gateways of one sync. -/
structure InfraGateways where
  resolved : List InfraGateway
  broken : List NamespacedName
  resolved_nodup : (resolved.map InfraGateway.gateway).Nodup
  disjoint : ∀ g ∈ resolved, g.gateway ∉ broken

def InfraGateways.isResolved (infra : InfraGateways) (key : String) : Bool :=
  infra.resolved.any (·.gateway.key = key)

def InfraGateways.isBroken (infra : InfraGateways) (key : String) : Bool :=
  infra.broken.any (·.key = key)

structure RoutePartition (HTTPRule GRPCRule : Type) where
  key : String
  gateway : Option NamespacedName
  perGateway : Option PerGatewayConfig
  httpRoutes : List (Route HTTPRule)
  grpcRoutes : List (Route GRPCRule)
  deriving DecidableEq

section Assignment

variable {Rule HTTPRule GRPCRule : Type} (infra : InfraGateways)

/-- The loop over a binding's accepted Gateways. -/
def collectPartitionKeys : Bool → List String → List String
  | _, [] => []
  | sharedSeen, gatewayKey :: rest =>
      if infra.isResolved gatewayKey then gatewayKey :: collectPartitionKeys sharedSeen rest
      else if infra.isBroken gatewayKey then collectPartitionKeys sharedSeen rest
      else if !sharedSeen then sharedPartitionKey :: collectPartitionKeys true rest
      else collectPartitionKeys sharedSeen rest

def partitionKeysFor (binding : RouteBindingInfo) : List String :=
  (collectPartitionKeys infra false binding.acceptedGateways).insertionSort (· ≤ ·)

/-- The routes appended to the partition with this key. -/
def routesFor (result : RouteResult Rule) (key : String) : List (Route Rule) :=
  result.accepted.flatMap fun route =>
    (partitionKeysFor infra (result.bindingOf route)).filterMap fun k =>
      if k = key then some route else none

/-- The shared partition first, then the dedicated ones by key. -/
def partitionRoutes (httpResult : RouteResult HTTPRule) (grpcResult : RouteResult GRPCRule) :
    List (RoutePartition HTTPRule GRPCRule) :=
  let partition (key : String) (gateway : Option NamespacedName)
      (perGateway : Option PerGatewayConfig) : RoutePartition HTTPRule GRPCRule :=
    ⟨key, gateway, perGateway, routesFor infra httpResult key, routesFor infra grpcResult key⟩
  partition sharedPartitionKey none none ::
    (infra.resolved.insertionSort fun a b => a.gateway.key ≤ b.gateway.key).map fun entry =>
      partition entry.gateway.key (some entry.gateway) (some entry.perGateway)

end Assignment

section Tunnels

variable {HTTPRule GRPCRule Rule : Type}

structure TunnelGroup (HTTPRule GRPCRule : Type) where
  resolved : ResolvedConfig
  partitions : List (RoutePartition HTTPRule GRPCRule)

/-- The config of a partition's tunnel; the shared partition uses the class's. -/
def resolvedOf (shared : ResolvedConfig) (partition : RoutePartition HTTPRule GRPCRule) :
    ResolvedConfig :=
  (partition.perGateway.map PerGatewayConfig.resolvedConfig).getD shared

def tunnelOf (sharedTunnelID : String) (partition : RoutePartition HTTPRule GRPCRule) : String :=
  (partition.perGateway.map (·.resolvedConfig.tunnelID)).getD sharedTunnelID

/-- The routes of several partitions, each once. -/
def unionRoutes (routesOf : RoutePartition HTTPRule GRPCRule → List (Route Rule))
    (partitions : List (RoutePartition HTTPRule GRPCRule)) : List (Route Rule) :=
  dedupBy (fun route => route.id.key) [] (partitions.flatMap routesOf)

def unionPartitionRoutes (sharedTunnelID : String)
    (partitions : List (RoutePartition HTTPRule GRPCRule)) :
    List (RoutePartition HTTPRule GRPCRule) :=
  partitions.map fun partition =>
    let siblings := partitions.filter fun p =>
      tunnelOf sharedTunnelID p = tunnelOf sharedTunnelID partition
    { partition with
      httpRoutes := unionRoutes RoutePartition.httpRoutes siblings
      grpcRoutes := unionRoutes RoutePartition.grpcRoutes siblings }

/-- One group per tunnel, the shared tunnel's first; the first partition's
config stands for the group. -/
def buildTunnelGroups (shared : ResolvedConfig)
    (partitions : List (RoutePartition HTTPRule GRPCRule)) :
    List (TunnelGroup HTTPRule GRPCRule) :=
  let order := dedupBy id [] (partitions.map fun p => (resolvedOf shared p).tunnelID)
  let sorted := order.take 1 ++ (order.drop 1).insertionSort (· ≤ ·)
  sorted.filterMap fun tunnelID =>
    let members := partitions.filter fun p => (resolvedOf shared p).tunnelID = tunnelID
    members.head?.map fun first => ⟨resolvedOf shared first, members⟩

def groupRoutes (group : TunnelGroup HTTPRule GRPCRule) :
    List (Route HTTPRule) × List (Route GRPCRule) :=
  (unionRoutes RoutePartition.httpRoutes group.partitions,
    unionRoutes RoutePartition.grpcRoutes group.partitions)

end Tunnels

section Membership

variable {Rule HTTPRule GRPCRule : Type} (infra : InfraGateways)

theorem mem_collectPartitionKeys (sharedSeen : Bool) (gatewayKeys : List String) (key : String) :
    key ∈ collectPartitionKeys infra sharedSeen gatewayKeys ↔
      (key ∈ gatewayKeys ∧ infra.isResolved key = true) ∨
      (key = sharedPartitionKey ∧ sharedSeen = false ∧ ∃ g ∈ gatewayKeys,
        infra.isResolved g = false ∧ infra.isBroken g = false) := by
  induction gatewayKeys generalizing sharedSeen with
  | nil => simp [collectPartitionKeys]
  | cons g rest ih =>
    rw [collectPartitionKeys]
    by_cases hresolved : infra.isResolved g = true
    · rw [if_pos hresolved, List.mem_cons, ih]
      constructor
      · intro h
        rcases h with rfl | ⟨hmem, hkey⟩ | ⟨hkey, hseen, g', hg', hopen⟩
        · exact Or.inl ⟨List.mem_cons_self, hresolved⟩
        · exact Or.inl ⟨List.mem_cons_of_mem _ hmem, hkey⟩
        · exact Or.inr ⟨hkey, hseen, g', List.mem_cons_of_mem _ hg', hopen⟩
      · intro h
        rcases h with ⟨hmem, hkey⟩ | ⟨hkey, hseen, g', hg', hopen⟩
        · rcases List.mem_cons.mp hmem with rfl | hmem
          · exact Or.inl rfl
          · exact Or.inr (Or.inl ⟨hmem, hkey⟩)
        · rcases List.mem_cons.mp hg' with rfl | hg'
          · rw [hresolved] at hopen
            exact absurd hopen.1 (by decide)
          · exact Or.inr (Or.inr ⟨hkey, hseen, g', hg', hopen⟩)
    · have hunresolved := Bool.eq_false_iff.mpr hresolved
      have hkeys : (key ∈ g :: rest ∧ infra.isResolved key = true) ↔
          key ∈ rest ∧ infra.isResolved key = true := by
        constructor
        · intro h
          rcases List.mem_cons.mp h.1 with rfl | hmem
          · exact absurd h.2 hresolved
          · exact ⟨hmem, h.2⟩
        · exact fun h => ⟨List.mem_cons_of_mem _ h.1, h.2⟩
      rw [if_neg hresolved, hkeys]
      by_cases hbroken : infra.isBroken g = true
      · rw [if_pos hbroken, ih]
        simp [hbroken]
      · have hopen := Bool.eq_false_iff.mpr hbroken
        cases sharedSeen with
        | false => simp [ih, hunresolved, hopen, or_comm]
        | true => simp [ih]

/-- The partition a Gateway's routes go to. -/
def ownPartitionKey (gatewayKey : String) : Option String :=
  if infra.isResolved gatewayKey then some gatewayKey
  else if infra.isBroken gatewayKey then none
  else some sharedPartitionKey

/-- The keys of a binding: the resolved Gateways it is accepted on, and the
shared key when it is accepted on a Gateway that did not opt in. -/
theorem mem_partitionKeysFor (binding : RouteBindingInfo) (key : String) :
    key ∈ partitionKeysFor infra binding ↔
      (key ∈ binding.acceptedGateways ∧ infra.isResolved key = true) ∨
      (key = sharedPartitionKey ∧ ∃ g ∈ binding.acceptedGateways,
        infra.isResolved g = false ∧ infra.isBroken g = false) := by
  rw [partitionKeysFor, List.mem_insertionSort, mem_collectPartitionKeys]
  simp

theorem exists_ownPartitionKey {binding : RouteBindingInfo} {key : String}
    (h : key ∈ partitionKeysFor infra binding) :
    ∃ g ∈ binding.acceptedGateways, ownPartitionKey infra g = some key := by
  rcases (mem_partitionKeysFor infra binding key).mp h with ⟨hmem, hresolved⟩ | ⟨rfl, g, hg, hopen⟩
  · exact ⟨key, hmem, by simp [ownPartitionKey, hresolved]⟩
  · exact ⟨g, hg, by simp [ownPartitionKey, hopen]⟩

theorem mem_routesFor (result : RouteResult Rule) (key : String) (route : Route Rule) :
    route ∈ routesFor infra result key ↔
      route ∈ result.accepted ∧ key ∈ partitionKeysFor infra (result.bindingOf route) := by
  simp only [routesFor, List.mem_flatMap, List.mem_filterMap]
  constructor
  · intro h
    obtain ⟨r, hr, k, hk, hsome⟩ := h
    split at hsome
    · rename_i hkey
      cases hsome
      exact ⟨hr, hkey ▸ hk⟩
    · cases hsome
  · intro h
    exact ⟨route, h.1, key, h.2, by simp⟩

omit infra in
theorem key_ne_sharedPartitionKey (n : NamespacedName) : n.key ≠ sharedPartitionKey := by
  intro heq
  have hslash := n.slash_mem_key
  rw [heq] at hslash
  exact absurd hslash (by decide)

theorem isResolved_sharedPartitionKey : infra.isResolved sharedPartitionKey = false := by
  rw [Bool.eq_false_iff]
  intro h
  obtain ⟨g, -, hkey⟩ := List.any_eq_true.mp h
  exact key_ne_sharedPartitionKey g.gateway (of_decide_eq_true hkey)

theorem isBroken_sharedPartitionKey : infra.isBroken sharedPartitionKey = false := by
  rw [Bool.eq_false_iff]
  intro h
  obtain ⟨n, -, hkey⟩ := List.any_eq_true.mp h
  exact key_ne_sharedPartitionKey n (of_decide_eq_true hkey)

theorem isResolved_of_mem {g : InfraGateway} (hg : g ∈ infra.resolved) :
    infra.isResolved g.gateway.key = true := List.any_eq_true.mpr ⟨g, hg, by simp⟩

theorem not_isBroken_of_mem {g : InfraGateway} (hg : g ∈ infra.resolved) :
    infra.isBroken g.gateway.key = false := by
  rw [Bool.eq_false_iff]
  intro h
  obtain ⟨b, hb, hkey⟩ := List.any_eq_true.mp h
  have hsame := NamespacedName.key_injective (of_decide_eq_true hkey)
  exact infra.disjoint g hg (hsame ▸ hb)

/-- The route is accepted on the Gateway with this key. -/
def AcceptedOn (result : RouteResult Rule) (route : Route Rule) (key : String) :
    Prop :=
  route ∈ result.accepted ∧ key ∈ (result.bindingOf route).acceptedGateways

/-- Routes sit in the partitions of the Gateways they are accepted on: the
Gateway's own, the shared one, or none for a broken Gateway. -/
structure PlacedByAcceptance (result : RouteResult Rule)
    (partitions : List (RoutePartition HTTPRule GRPCRule))
    (routesOf : RoutePartition HTTPRule GRPCRule → List (Route Rule)) : Prop where
  keys_nodup : (partitions.map RoutePartition.key).Nodup
  own_exists : ∀ g ∈ infra.resolved, g.gateway.key ∈ partitions.map RoutePartition.key
  own : ∀ p ∈ partitions, ∀ g ∈ infra.resolved, p.key = g.gateway.key →
    p.perGateway = some g.perGateway ∧
    ∀ route, route ∈ routesOf p ↔ AcceptedOn result route g.gateway.key
  shared_exists : sharedPartitionKey ∈ partitions.map RoutePartition.key
  shared : ∀ p ∈ partitions, p.key = sharedPartitionKey → p.perGateway = none ∧
    ∀ route, route ∈ routesOf p ↔ ∃ key, AcceptedOn result route key ∧
      infra.isResolved key = false ∧ infra.isBroken key = false
  no_other : ∀ p ∈ partitions, p.key = sharedPartitionKey ∨
    ∃ g ∈ infra.resolved, p.key = g.gateway.key
  none_broken : ∀ p ∈ partitions, infra.isBroken p.key = false

variable {infra}

variable {grpcResult : RouteResult GRPCRule} {httpResult : RouteResult HTTPRule}

theorem mem_partitionRoutes {p : RoutePartition HTTPRule GRPCRule}
    (hp : p ∈ partitionRoutes infra httpResult grpcResult) :
    ((p.key = sharedPartitionKey ∧ p.perGateway = none) ∨
      ∃ g ∈ infra.resolved, p.key = g.gateway.key ∧ p.perGateway = some g.perGateway) ∧
    p.httpRoutes = routesFor infra httpResult p.key ∧
    p.grpcRoutes = routesFor infra grpcResult p.key := by
  rcases List.mem_cons.mp hp with rfl | hp
  · exact ⟨Or.inl ⟨rfl, rfl⟩, rfl, rfl⟩
  · obtain ⟨g, hg, rfl⟩ := List.mem_map.mp hp
    exact ⟨Or.inr ⟨g, (List.mem_insertionSort _).mp hg, rfl, rfl⟩, rfl, rfl⟩

theorem keys_partitionRoutes (httpResult : RouteResult HTTPRule)
    (grpcResult : RouteResult GRPCRule) :
    ((partitionRoutes infra httpResult grpcResult).map RoutePartition.key).Perm
      (sharedPartitionKey :: infra.resolved.map (·.gateway.key)) := by
  simp only [partitionRoutes, List.map_cons, List.map_map]
  apply List.Perm.cons
  apply List.Perm.map
  apply List.perm_insertionSort

theorem placedByAcceptance (result : RouteResult Rule)
    {routesOf : RoutePartition HTTPRule GRPCRule → List (Route Rule)}
    (hroutes : ∀ p ∈ partitionRoutes infra httpResult grpcResult,
      routesOf p = routesFor infra result p.key) :
    PlacedByAcceptance infra result (partitionRoutes infra httpResult grpcResult) routesOf where
  keys_nodup := by
    rw [(keys_partitionRoutes httpResult grpcResult).nodup_iff, List.nodup_cons]
    constructor
    · intro hmem
      obtain ⟨g, -, hkey⟩ := List.mem_map.mp hmem
      exact key_ne_sharedPartitionKey g.gateway hkey
    · have hnodup := infra.resolved_nodup.map NamespacedName.key_injective
      rwa [List.map_map] at hnodup
  own_exists g hg := by
    rw [(keys_partitionRoutes httpResult grpcResult).mem_iff]
    exact List.mem_cons_of_mem _ (List.mem_map.mpr ⟨g, hg, rfl⟩)
  own p hp g hg hkey := by
    constructor
    · rcases (mem_partitionRoutes hp).1 with ⟨hshared, -⟩ | ⟨g', hg', hkey', hper⟩
      · exact absurd (hkey.symm.trans hshared) (key_ne_sharedPartitionKey g.gateway)
      · have hsame : g' = g := by
          apply List.inj_on_of_nodup_map infra.resolved_nodup hg' hg
          exact NamespacedName.key_injective (hkey'.symm.trans hkey)
        rw [hper, hsame]
    · intro route
      rw [hroutes p hp, mem_routesFor, mem_partitionKeysFor, hkey, isResolved_of_mem infra hg]
      simp [AcceptedOn, key_ne_sharedPartitionKey]
  shared_exists := by
    rw [(keys_partitionRoutes httpResult grpcResult).mem_iff]
    exact List.mem_cons_self
  shared p hp hkey := by
    constructor
    · rcases (mem_partitionRoutes hp).1 with ⟨-, hper⟩ | ⟨g, -, hkey', -⟩
      · exact hper
      · exact absurd (hkey'.symm.trans hkey) (key_ne_sharedPartitionKey g.gateway)
    · intro route
      rw [hroutes p hp, mem_routesFor, mem_partitionKeysFor, hkey, isResolved_sharedPartitionKey]
      simp only [Bool.false_eq_true, and_false, true_and, false_or, AcceptedOn]
      constructor
      · intro h
        obtain ⟨hacc, g, hg, hopen⟩ := h
        exact ⟨g, ⟨hacc, hg⟩, hopen⟩
      · intro h
        obtain ⟨g, ⟨hacc, hg⟩, hopen⟩ := h
        exact ⟨hacc, g, hg, hopen⟩
  no_other p hp := by
    rcases (mem_partitionRoutes hp).1 with ⟨hkey, -⟩ | ⟨g, hg, hkey, -⟩
    · exact Or.inl hkey
    · exact Or.inr ⟨g, hg, hkey⟩
  none_broken p hp := by
    rcases (mem_partitionRoutes hp).1 with ⟨hkey, -⟩ | ⟨g, hg, hkey, -⟩
    · rw [hkey, isBroken_sharedPartitionKey]
    · rw [hkey, not_isBroken_of_mem infra hg]

end Membership

section Lockstep

variable {Rule HTTPRule GRPCRule : Type}

/-- Partitions on one tunnel carry the same routes, each once, and so does the
tunnel's document. -/
structure InLockstep (shared : ResolvedConfig)
    (partitions : List (RoutePartition HTTPRule GRPCRule))
    (routesOf : RoutePartition HTTPRule GRPCRule → List (Route Rule))
    (groupRoutesOf : TunnelGroup HTTPRule GRPCRule → List (Route Rule)) : Prop where
  same_planes : (unionPartitionRoutes shared.tunnelID partitions).map
      (fun p => (p.key, p.perGateway)) = partitions.map (fun p => (p.key, p.perGateway))
  contains : ∀ p ∈ unionPartitionRoutes shared.tunnelID partitions, ∀ route,
    route ∈ routesOf p ↔ ∃ q ∈ partitions,
      tunnelOf shared.tunnelID q = tunnelOf shared.tunnelID p ∧ route ∈ routesOf q
  once : ∀ p ∈ unionPartitionRoutes shared.tunnelID partitions, (routesOf p).Nodup
  together : ∀ p ∈ unionPartitionRoutes shared.tunnelID partitions,
    ∀ q ∈ unionPartitionRoutes shared.tunnelID partitions,
    tunnelOf shared.tunnelID p = tunnelOf shared.tunnelID q → routesOf p = routesOf q
  group_exists : ∀ p ∈ unionPartitionRoutes shared.tunnelID partitions,
    ∃ group ∈ buildTunnelGroups shared partitions,
      group.resolved.tunnelID = tunnelOf shared.tunnelID p
  group_same : ∀ p ∈ unionPartitionRoutes shared.tunnelID partitions,
    ∀ group ∈ buildTunnelGroups shared partitions,
    group.resolved.tunnelID = tunnelOf shared.tunnelID p → ∀ route,
      route ∈ groupRoutesOf group ↔ route ∈ routesOf p

theorem resolvedOf_tunnelID (shared : ResolvedConfig) (p : RoutePartition HTTPRule GRPCRule) :
    (resolvedOf shared p).tunnelID = tunnelOf shared.tunnelID p := by
  unfold resolvedOf tunnelOf
  cases p.perGateway <;> rfl

variable {partitions : List (RoutePartition HTTPRule GRPCRule)} {shared : ResolvedConfig}

/-- A group holds exactly the partitions on its tunnel. -/
theorem mem_buildTunnelGroups {group : TunnelGroup HTTPRule GRPCRule}
    (h : group ∈ buildTunnelGroups shared partitions) :
    group.partitions = partitions.filter fun p =>
      tunnelOf shared.tunnelID p = group.resolved.tunnelID := by
  obtain ⟨tunnelID, -, hgroup⟩ := List.mem_filterMap.mp h
  obtain ⟨first, hfirst, rfl⟩ := Option.map_eq_some_iff.mp hgroup
  have hmem := List.mem_of_mem_head? hfirst
  have htunnel := of_decide_eq_true (List.mem_filter.mp hmem).2
  simp [htunnel, resolvedOf_tunnelID]

theorem exists_group {p : RoutePartition HTTPRule GRPCRule} (hp : p ∈ partitions) :
    ∃ group ∈ buildTunnelGroups shared partitions,
      group.resolved.tunnelID = tunnelOf shared.tunnelID p := by
  have hseen : tunnelOf shared.tunnelID p ∈
      dedupBy id [] (partitions.map fun p => (resolvedOf shared p).tunnelID) := by
    apply (mem_dedupBy ?_).mpr
    · exact List.mem_map.mpr ⟨p, hp, resolvedOf_tunnelID shared p⟩
    · exact fun _ _ _ _ h => h
  have hmember : p ∈ partitions.filter fun q =>
      (resolvedOf shared q).tunnelID = tunnelOf shared.tunnelID p :=
    List.mem_filter.mpr ⟨hp, by simp [resolvedOf_tunnelID]⟩
  obtain ⟨first, hfirst⟩ := Option.isSome_iff_exists.mp
    (List.isSome_head?.mpr (List.ne_nil_of_mem hmember))
  have htunnel := of_decide_eq_true (List.mem_filter.mp (List.mem_of_mem_head? hfirst)).2
  refine ⟨⟨resolvedOf shared first, _⟩,
    List.mem_filterMap.mpr ⟨tunnelOf shared.tunnelID p, ?_, Option.map_eq_some_iff.mpr
      ⟨first, hfirst, rfl⟩⟩, htunnel⟩
  · rw [List.mem_append, List.mem_insertionSort]
    rw [← List.take_append_drop 1 (dedupBy _ _ _), List.mem_append] at hseen
    exact hseen

theorem inLockstep {routesOf : RoutePartition HTTPRule GRPCRule → List (Route Rule)}
    {groupRoutesOf : TunnelGroup HTTPRule GRPCRule → List (Route Rule)}
    (hkeys : ∀ p ∈ partitions, ∀ q ∈ partitions, ∀ a ∈ routesOf p, ∀ b ∈ routesOf q,
      a.id.key = b.id.key → a = b)
    (hunion : ∀ p ∈ unionPartitionRoutes shared.tunnelID partitions,
      routesOf p = unionRoutes routesOf (partitions.filter fun q =>
        tunnelOf shared.tunnelID q = tunnelOf shared.tunnelID p))
    (hgroup : ∀ group, groupRoutesOf group = unionRoutes routesOf group.partitions) :
    InLockstep shared partitions routesOf groupRoutesOf := by
  have hmem : ∀ tunnelID route, route ∈ unionRoutes routesOf
      (partitions.filter fun q => tunnelOf shared.tunnelID q = tunnelID) ↔
      ∃ q ∈ partitions, tunnelOf shared.tunnelID q = tunnelID ∧ route ∈ routesOf q := by
    intro tunnelID route
    rw [unionRoutes, mem_dedupBy]
    · simp [and_assoc]
    · intro a ha b hb hkey
      obtain ⟨p, hp, ha⟩ := List.mem_flatMap.mp ha
      obtain ⟨q, hq, hb⟩ := List.mem_flatMap.mp hb
      exact hkeys p (List.mem_filter.mp hp).1 q (List.mem_filter.mp hq).1 a ha b hb hkey
  have hplane : ∀ p ∈ unionPartitionRoutes shared.tunnelID partitions, ∃ q ∈ partitions,
      tunnelOf shared.tunnelID q = tunnelOf shared.tunnelID p := by
    intro p hp
    obtain ⟨q, hq, rfl⟩ := List.mem_map.mp hp
    exact ⟨q, hq, rfl⟩
  refine ⟨?_, ?_, ?_, ?_, ?_, ?_⟩
  · simp [unionPartitionRoutes]
  · intro p hp route
    rw [hunion p hp, hmem]
  · intro p hp
    rw [hunion p hp]
    exact nodup_dedupBy
  · intro p hp q hq htunnel
    rw [hunion p hp, hunion q hq, htunnel]
  · intro p hp
    obtain ⟨q, hq, htunnel⟩ := hplane p hp
    rw [← htunnel]
    exact exists_group hq
  · intro p hp group hg htunnel route
    rw [hgroup, mem_buildTunnelGroups hg, htunnel, hunion p hp]

theorem eq_of_key_eq_of_accepted {result : RouteResult Rule} {a b : Route Rule}
    (ha : a ∈ result.accepted) (hb : b ∈ result.accepted) (hkey : a.id.key = b.id.key) : a = b :=
  List.inj_on_of_nodup_map result.accepted_nodup ha hb (NamespacedName.key_injective hkey)

theorem inLockstep_httpRoutes (infra : InfraGateways) (shared : ResolvedConfig)
    (httpResult : RouteResult HTTPRule) (grpcResult : RouteResult GRPCRule) :
    InLockstep shared (partitionRoutes infra httpResult grpcResult) RoutePartition.httpRoutes
      (fun g => (groupRoutes g).1) := by
  refine inLockstep ?_ ?_ fun _ => rfl
  · intro p hp q hq a ha b hb
    rw [(mem_partitionRoutes hp).2.1, mem_routesFor] at ha
    rw [(mem_partitionRoutes hq).2.1, mem_routesFor] at hb
    exact eq_of_key_eq_of_accepted ha.1 hb.1
  · intro p hp
    obtain ⟨q, hq, rfl⟩ := List.mem_map.mp hp
    rfl

theorem inLockstep_grpcRoutes (infra : InfraGateways) (shared : ResolvedConfig)
    (httpResult : RouteResult HTTPRule) (grpcResult : RouteResult GRPCRule) :
    InLockstep shared (partitionRoutes infra httpResult grpcResult) RoutePartition.grpcRoutes
      (fun g => (groupRoutes g).2) := by
  refine inLockstep ?_ ?_ fun _ => rfl
  · intro p hp q hq a ha b hb
    rw [(mem_partitionRoutes hp).2.2, mem_routesFor] at ha
    rw [(mem_partitionRoutes hq).2.2, mem_routesFor] at hb
    exact eq_of_key_eq_of_accepted ha.1 hb.1
  · intro p hp
    obtain ⟨q, hq, rfl⟩ := List.mem_map.mp hp
    rfl

/-- Placement of accepted routes, and agreement of the two groupings by tunnel,
for both kinds of routes. -/
theorem partitions_follow_acceptance (infra : InfraGateways) (shared : ResolvedConfig)
    (httpResult : RouteResult HTTPRule) (grpcResult : RouteResult GRPCRule) :
    let partitions := partitionRoutes infra httpResult grpcResult
    PlacedByAcceptance infra httpResult partitions RoutePartition.httpRoutes ∧
    PlacedByAcceptance infra grpcResult partitions RoutePartition.grpcRoutes ∧
    InLockstep shared partitions RoutePartition.httpRoutes (fun g => (groupRoutes g).1) ∧
    InLockstep shared partitions RoutePartition.grpcRoutes (fun g => (groupRoutes g).2) := by
  intro partitions
  exact ⟨placedByAcceptance httpResult fun p hp => (mem_partitionRoutes hp).2.1,
    placedByAcceptance grpcResult fun p hp => (mem_partitionRoutes hp).2.2,
    inLockstep_httpRoutes infra shared httpResult grpcResult,
    inLockstep_grpcRoutes infra shared httpResult grpcResult⟩

end Lockstep

end TunnelGateway.Partition
