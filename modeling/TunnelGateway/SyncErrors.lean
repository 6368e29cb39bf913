import TunnelGateway.CrossTypeConflicts
import TunnelGateway.EarnedStatus
import TunnelGateway.PartitionHostnames
import TunnelGateway.TunnelSync

/-!
How the failure of a tunnel reaches the status of routes. A sync of all routes
syncs the tunnels one by one; the failure of a tunnel is charged to its
partitions, from there to the Gateways of the partitions, and from there to the
references of each route that lead to such a Gateway.
-/
namespace TunnelGateway.SyncErrors

open GoText Hostname GatewayApi RouteBinding ParentBinding RouteCollection TunnelGateway.Partition
open FailedRefs RouteStatus EarnedStatus TunnelSync CrossTypeConflicts

section Model

variable {HTTPRule GRPCRule Rule : Type}

/-- A later entry of `failedPartitions` stands before an earlier one. -/
structure TunnelGroupsOutcome where
  httpFailedRefs : List BackendRefError := []
  grpcFailedRefs : List BackendRefError := []
  totalRules : ℕ := 0
  anyWritten : Bool := false
  groupErrs : List String := []
  failedPartitions : List (String × String) := []

/-- The loop body over the groups. -/
def recordGroup (outcome : TunnelGroupsOutcome) (group : TunnelGroup HTTPRule GRPCRule)
    (result : TunnelGroupResult) : TunnelGroupsOutcome :=
  let outcome := { outcome with
    httpFailedRefs := outcome.httpFailedRefs ++ result.httpFailedRefs
    grpcFailedRefs := outcome.grpcFailedRefs ++ result.grpcFailedRefs
    totalRules := outcome.totalRules + result.ruleCount
    anyWritten := outcome.anyWritten || result.written }
  match result.err with
  | none => outcome
  | some err => { outcome with
      groupErrs := outcome.groupErrs ++ [err]
      failedPartitions := group.partitions.foldl (fun failed partition =>
        (partition.key, err) :: failed) outcome.failedPartitions }

/-- `syncGroup` is the sync of one group. -/
def syncTunnelGroups (syncGroup : TunnelGroup HTTPRule GRPCRule → TunnelGroupResult)
    (groups : List (TunnelGroup HTTPRule GRPCRule)) : TunnelGroupsOutcome :=
  groups.foldl (fun outcome group => recordGroup outcome group (syncGroup group)) {}

def errBrokenDataPlane : String :=
  "the Gateway's dedicated data plane is unavailable; the route is not programmed " ++
    "(see the Gateway's Accepted condition, which reports InvalidParameters)"

variable (infra : InfraGateways)

def gatewaySyncError (gatewayKey : String) (failedPartitions : List (String × String)) :
    Option String :=
  if infra.isBroken gatewayKey then some errBrokenDataPlane
  else failedPartitions.lookup
    (if infra.isResolved gatewayKey then gatewayKey else sharedPartitionKey)

/-- `injectPartitionSyncErrors` for the binding of one route. -/
def injectSyncErrors (failedPartitions : List (String × String)) (info : RouteBindingInfo) :
    StatusBinding :=
  ⟨info, info.acceptedGateways.filterMap fun gatewayKey =>
    (gatewaySyncError infra gatewayKey failedPartitions).map fun err => (gatewayKey, err)⟩

/-- What `SyncAllRoutes` hands to the status writers: the bound routes, the failed
partitions and the error of the run. -/
structure SyncRun (HTTPRule GRPCRule : Type) where
  httpResult : RouteResult HTTPRule
  grpcResult : RouteResult GRPCRule
  groups : List (TunnelGroup HTTPRule GRPCRule)
  outcome : TunnelGroupsOutcome
  syncErr : Option String

/-- `SyncAllRoutes` from the collected routes on. The run fails as a whole when every
group has failed. -/
def syncAllRoutes (shared : ResolvedConfig)
    (syncGroup : TunnelGroup HTTPRule GRPCRule → TunnelGroupResult)
    (httpResult : RouteResult HTTPRule) (grpcResult : RouteResult GRPCRule) :
    SyncRun HTTPRule GRPCRule :=
  let (httpResult, grpcResult) := resolveCrossTypeConflicts httpResult grpcResult
  let groups := buildTunnelGroups shared (partitionRoutes infra httpResult grpcResult)
  let outcome := syncTunnelGroups syncGroup groups
  let syncErr :=
    if outcome.groupErrs.length = groups.length ∧ groups.length > 0 then
      some ("\n".intercalate outcome.groupErrs)
    else none
  ⟨httpResult, grpcResult, groups, outcome, syncErr⟩

/-- The binding a route's status is written from. -/
def SyncRun.statusBinding (run : SyncRun HTTPRule GRPCRule) (result : RouteResult Rule)
    (route : Route Rule) : StatusBinding :=
  injectSyncErrors infra run.outcome.failedPartitions (result.bindingOf route)

end Model

section Groups

variable {HTTPRule GRPCRule : Type}
  (syncGroup : TunnelGroup HTTPRule GRPCRule → TunnelGroupResult)

/-- The sync of a group that holds the partition failed. -/
def PartitionFailed (groups : List (TunnelGroup HTTPRule GRPCRule)) (key : String) : Prop :=
  ∃ group ∈ groups, (syncGroup group).err.isSome = true ∧ ∃ p ∈ group.partitions, p.key = key

theorem isSome_lookup_foldl_charge (partitions : List (RoutePartition HTTPRule GRPCRule))
    (err : String) (failed : List (String × String)) (key : String) :
    ((partitions.foldl (fun failed partition => (partition.key, err) :: failed) failed).lookup
        key).isSome = true ↔
      (failed.lookup key).isSome = true ∨ ∃ p ∈ partitions, p.key = key := by
  induction partitions generalizing failed with
  | nil => simp
  | cons p rest ih =>
    rw [List.foldl_cons, ih]
    by_cases hkey : key = p.key
    · simp [hkey]
    · simp [List.lookup_cons, beq_false_of_ne hkey, Ne.symm hkey]

theorem isSome_lookup_recordGroup (outcome : TunnelGroupsOutcome)
    (group : TunnelGroup HTTPRule GRPCRule) (result : TunnelGroupResult) (key : String) :
    ((recordGroup outcome group result).failedPartitions.lookup key).isSome = true ↔
      (outcome.failedPartitions.lookup key).isSome = true ∨
        result.err.isSome = true ∧ ∃ p ∈ group.partitions, p.key = key := by
  rw [recordGroup]
  cases result.err with
  | none => simp
  | some err => simp only [isSome_lookup_foldl_charge, Option.isSome_some, true_and]

theorem isSome_lookup_foldl_recordGroup (groups : List (TunnelGroup HTTPRule GRPCRule))
    (outcome : TunnelGroupsOutcome) (key : String) :
    ((groups.foldl (fun outcome group => recordGroup outcome group (syncGroup group))
        outcome).failedPartitions.lookup key).isSome = true ↔
      (outcome.failedPartitions.lookup key).isSome = true ∨
        PartitionFailed syncGroup groups key := by
  induction groups generalizing outcome with
  | nil => simp [PartitionFailed]
  | cons group rest ih =>
    rw [List.foldl_cons, ih, isSome_lookup_recordGroup]
    simp [PartitionFailed, or_assoc]

/-- A partition is marked exactly when its group failed. -/
theorem isSome_lookup_failedPartitions (groups : List (TunnelGroup HTTPRule GRPCRule))
    (key : String) :
    ((syncTunnelGroups syncGroup groups).failedPartitions.lookup key).isSome = true ↔
      PartitionFailed syncGroup groups key := by
  rw [syncTunnelGroups, isSome_lookup_foldl_recordGroup]
  simp

theorem length_groupErrs (groups : List (TunnelGroup HTTPRule GRPCRule))
    (outcome : TunnelGroupsOutcome) :
    (groups.foldl (fun outcome group => recordGroup outcome group (syncGroup group))
        outcome).groupErrs.length =
      outcome.groupErrs.length + groups.countP fun group => (syncGroup group).err.isSome := by
  induction groups generalizing outcome with
  | nil => rfl
  | cons group rest ih =>
    rw [List.foldl_cons, ih, recordGroup, List.countP_cons]
    cases (syncGroup group).err with
    | none => simp
    | some err =>
      simp only [List.length_append, List.length_singleton, Option.isSome_some, if_true]
      omega

end Groups

section Attribution

variable (cluster : Cluster) (lib : GoLib) (controllerName : String) {Rule : Type}
  (kind : RouteKind) (route : Route Rule)

/-- Every result of a binding has the Gateway its reference leads to beside it, and an
accepted one has that Gateway among the accepted ones. -/
structure Attributed (refs : List (ParentReference × ℕ)) (info : RouteBindingInfo) : Prop where
  aligned : ∀ refIdx, info.bindingResults.lookup refIdx = none →
    info.parentGateways.lookup refIdx = none
  gateway : ∀ refIdx result, info.bindingResults.lookup refIdx = some result →
    ∃ ref binding, (ref, refIdx) ∈ refs ∧
      resolveRouteParentBinding cluster lib controllerName ref (routeInfo kind route ref) =
        .ok (some binding) ∧
      info.parentGateways.lookup refIdx = some binding.gatewayKey ∧
      (result.accepted = true → binding.gatewayKey ∈ info.acceptedGateways)

variable {cluster lib controllerName kind route} {refs : List (ParentReference × ℕ)}
  {info : RouteBindingInfo}

variable {info' : RouteBindingInfo} {state : RouteBindingInfo × Bool × Bool}

/-- Results that are turned down keep their Gateways. -/
theorem Attributed.map_results (h : Attributed cluster lib controllerName kind route refs info)
    {turn : BindingResult → BindingResult}
    (hresults : info'.bindingResults = info.bindingResults.map fun entry => (entry.1, turn entry.2))
    (hparents : info'.parentGateways = info.parentGateways)
    (hturn : ∀ result, (turn result).accepted = false) :
    Attributed cluster lib controllerName kind route refs info' where
  aligned refIdx hnone := by
    rw [hresults, lookup_map_value fun _ => turn, Option.map_eq_none_iff] at hnone
    rw [hparents]
    exact h.aligned refIdx hnone
  gateway refIdx result hsome := by
    rw [hresults, lookup_map_value fun _ => turn, Option.map_eq_some_iff] at hsome
    obtain ⟨before, hbefore, rfl⟩ := hsome
    obtain ⟨ref, binding, hmem, hresolve, hparent, -⟩ := h.gateway refIdx before hbefore
    refine ⟨ref, binding, hmem, hresolve, hparents ▸ hparent, fun haccepted => ?_⟩
    rw [hturn] at haccepted
    cases haccepted

/-- One more reference is recorded at its position. -/
theorem Attributed.record (h : Attributed cluster lib controllerName kind route refs info)
    {entry : ParentReference × ℕ} {binding : ParentRefBinding}
    (hresolve : resolveRouteParentBinding cluster lib controllerName entry.1
      (routeInfo kind route entry.1) = .ok (some binding))
    (hresults : info'.bindingResults = info.bindingResults ++ [(entry.2, binding.result)])
    (hparents : info'.parentGateways = info.parentGateways ++ [(entry.2, binding.gatewayKey)])
    (hkept : ∀ key ∈ info.acceptedGateways, key ∈ info'.acceptedGateways)
    (hadded : binding.result.accepted = true → binding.gatewayKey ∈ info'.acceptedGateways) :
    Attributed cluster lib controllerName kind route (refs ++ [entry]) info' where
  aligned refIdx hnone := by
    rw [hresults, List.lookup_append, Option.or_eq_none_iff] at hnone
    have hne : (refIdx == entry.2) = false := by simpa using hnone.2
    rw [hparents, List.lookup_append, h.aligned refIdx hnone.1]
    simp [List.lookup_cons, hne]
  gateway refIdx result hsome := by
    rw [hresults, List.lookup_append] at hsome
    cases hbefore : info.bindingResults.lookup refIdx with
    | some before =>
      rw [hbefore, Option.some_or, Option.some.injEq] at hsome
      subst hsome
      obtain ⟨ref, found, hmem, hfound, hparent, hgateway⟩ := h.gateway refIdx before hbefore
      refine ⟨ref, found, List.mem_append_left _ hmem, hfound, ?_, fun haccepted =>
        hkept _ (hgateway haccepted)⟩
      rw [hparents, List.lookup_append, hparent, Option.some_or]
    | none =>
      rw [hbefore, Option.none_or, List.lookup_cons] at hsome
      cases hidx : refIdx == entry.2 with
      | false => simp [hidx] at hsome
      | true =>
        have heq : refIdx = entry.2 := by simpa using hidx
        simp only [hidx, Option.some.injEq] at hsome
        subst hsome heq
        refine ⟨entry.1, binding, by simp, hresolve, ?_, hadded⟩
        rw [hparents, List.lookup_append, h.aligned _ hbefore]
        simp

theorem Attributed.bindNextParent
    (h : Attributed cluster lib controllerName kind route refs state.1)
    (entry : ParentReference × ℕ) :
    Attributed cluster lib controllerName kind route (refs ++ [entry])
      (bindNextParent cluster lib controllerName kind route state entry).1 := by
  have hunmanaged : Attributed cluster lib controllerName kind route (refs ++ [entry]) state.1 :=
    { aligned := h.aligned
      gateway := fun refIdx result hsome => by
        obtain ⟨ref, binding, hmem, hrest⟩ := h.gateway refIdx result hsome
        exact ⟨ref, binding, List.mem_append_left _ hmem, hrest⟩ }
  unfold ParentBinding.bindNextParent bindOneParent
  cases hresolve : resolveRouteParentBinding cluster lib controllerName entry.1
      (routeInfo kind route entry.1) with
  | error err => exact hunmanaged
  | ok managed =>
    cases managed with
    | none => exact hunmanaged
    | some binding =>
      by_cases haccepted : binding.result.accepted = true
      · simp only [haccepted]
        refine h.record hresolve rfl rfl (fun key hkey => ?_) (fun _ => ?_)
        · exact List.mem_insert_of_mem hkey
        · exact List.mem_insert_self
      · simp only [if_neg haccepted]
        exact h.record hresolve rfl rfl (fun _ hkey => hkey) (fun h => absurd h haccepted)

theorem Attributed.foldl (h : Attributed cluster lib controllerName kind route refs state.1)
    (entries : List (ParentReference × ℕ)) :
    Attributed cluster lib controllerName kind route (refs ++ entries)
      (entries.foldl (ParentBinding.bindNextParent cluster lib controllerName kind route)
        state).1 := by
  induction entries generalizing refs state with
  | nil => simpa using h
  | cons entry rest ih =>
    have hnext := ih (h.bindNextParent entry)
    rwa [List.append_assoc] at hnext

theorem Attributed.deny (h : Attributed cluster lib controllerName kind route refs info)
    (message : String) :
    Attributed cluster lib controllerName kind route refs (info.deny message) := by
  have hresults : (info.deny message).bindingResults = info.bindingResults.map fun entry =>
      (entry.1, turnDown ⟨[], some message, false⟩ entry.2) := bindingResults_deny rfl info
  apply h.map_results hresults rfl
  intro result
  exact (accepted_turnDown _ result).mpr (.inr (.inl rfl))

theorem Attributed.markBindingConflicted
    (h : Attributed cluster lib controllerName kind route refs info) :
    Attributed cluster lib controllerName kind route refs (markBindingConflicted info) := by
  have hresults : (RouteCollection.markBindingConflicted info).bindingResults =
      info.bindingResults.map fun entry => (entry.1, turnDown ⟨[], none, true⟩ entry.2) :=
    bindingResults_markBindingConflicted rfl rfl info
  apply h.map_results hresults rfl
  intro result
  exact (accepted_turnDown _ result).mpr (.inr (.inr rfl))

/-- The binding of a route is attributed, whether or not it is denied its hostnames. -/
theorem attributed_bindRouteParents (ownership : String → List Hostname → Option String) :
    Attributed cluster lib controllerName kind route route.parentRefs.zipIdx
      (bindRouteParents cluster lib controllerName ownership kind route).1 := by
  have hempty : Attributed cluster lib controllerName kind route []
      (RouteBindingInfo.empty, false, false).1 :=
    { aligned := fun _ _ => rfl
      gateway := fun _ _ h => by cases h }
  have hloop := hempty.foldl route.parentRefs.zipIdx
  unfold bindRouteParents
  simp only
  split
  · cases ownership route.id.ns route.hostnames with
    | none => exact hloop
    | some message => exact hloop.deny message
  · exact hloop

/-- So is the binding the status is written from. -/
theorem attributed_bindingOf {ownership : String → List Hostname → Option String}
    {routes : RouteList Rule} (hroute : route ∈ routes.items) (losers : List String) :
    Attributed cluster lib controllerName kind route route.parentRefs.zipIdx
      ((rejectCrossTypeLosers (getRelevantRoutes cluster lib controllerName ownership kind routes)
        losers).bindingOf route) := by
  have hbound : Attributed cluster lib controllerName kind route route.parentRefs.zipIdx
      ((getRelevantRoutes cluster lib controllerName ownership kind routes).bindingOf route) := by
    rw [bindingOf_getRelevantRoutes cluster lib controllerName ownership hroute]
    exact attributed_bindRouteParents ownership
  rw [RouteResult.bindingOf] at hbound ⊢
  rw [lookup_bindings_rejectCrossTypeLosers]
  cases hlookup : (getRelevantRoutes cluster lib controllerName ownership kind
      routes).bindings.lookup route.id.key with
  | none =>
    rw [hlookup] at hbound
    exact hbound
  | some info =>
    rw [hlookup] at hbound
    split
    · exact hbound.markBindingConflicted
    · exact hbound

end Attribution

section Reports

variable {Rule HTTPRule GRPCRule : Type} (infra : InfraGateways)
  (syncGroup : TunnelGroup HTTPRule GRPCRule → TunnelGroupResult)

/-- The partition that serves a Gateway which is not broken. -/
def servingPartition (gatewayKey : String) : String :=
  if infra.isResolved gatewayKey then gatewayKey else sharedPartitionKey

/-- Routes accepted on the Gateway are not served: its data plane is broken, or the sync
of the tunnel behind its partition failed. -/
def Affected (groups : List (TunnelGroup HTTPRule GRPCRule)) (gatewayKey : String) : Prop :=
  infra.isBroken gatewayKey = true ∨
    PartitionFailed syncGroup groups (servingPartition infra gatewayKey)

theorem lookup_filterMap_key {β : Type} (value : String → Option β) {keys : List String}
    {key : String} (hkey : key ∈ keys) :
    (keys.filterMap fun k => (value k).map fun v => (k, v)).lookup key = value key := by
  induction keys with
  | nil => cases hkey
  | cons first rest ih =>
    by_cases hfirst : key = first
    · subst hfirst
      cases hvalue : value key with
      | none =>
        rw [List.lookup_eq_none_iff]
        intro entry hentry
        obtain ⟨k, -, hk⟩ := List.mem_filterMap.mp hentry
        obtain ⟨v, hv, rfl⟩ := Option.map_eq_some_iff.mp hk
        have hne : key ≠ k := by
          rintro rfl
          rw [hvalue] at hv
          cases hv
        simpa using hne
      | some v =>
        rw [List.filterMap_cons_some (by rw [hvalue]; rfl), List.lookup_cons_self]
    · have hrest := ih ((List.mem_cons.mp hkey).resolve_left hfirst)
      cases hvalue : value first with
      | none => rwa [List.filterMap_cons_none (by rw [hvalue]; rfl)]
      | some v =>
        rw [List.filterMap_cons_some (by rw [hvalue]; rfl), List.lookup_cons,
          beq_false_of_ne hfirst]
        exact hrest

/-- Every Gateway that is not broken has its partition in some group. -/
theorem exists_serving_group (shared : ResolvedConfig) (httpResult : RouteResult HTTPRule)
    (grpcResult : RouteResult GRPCRule) (gatewayKey : String) :
    ∃ group ∈ buildTunnelGroups shared (partitionRoutes infra httpResult grpcResult),
      ∃ p ∈ group.partitions, p.key = servingPartition infra gatewayKey := by
  have hkey : servingPartition infra gatewayKey ∈
      (partitionRoutes infra httpResult grpcResult).map RoutePartition.key := by
    rw [(keys_partitionRoutes httpResult grpcResult).mem_iff, servingPartition]
    split
    · next hresolved =>
      obtain ⟨g, hg, hkey⟩ := List.any_eq_true.mp hresolved
      rw [← of_decide_eq_true hkey]
      exact List.mem_cons_of_mem _ (List.mem_map.mpr ⟨g, hg, rfl⟩)
    · exact List.mem_cons_self
  obtain ⟨p, hp, hpkey⟩ := List.mem_map.mp hkey
  obtain ⟨group, hgroup, htunnel⟩ : ∃ group ∈ buildTunnelGroups shared
      (partitionRoutes infra httpResult grpcResult),
      group.resolved.tunnelID = tunnelOf shared.tunnelID p := exists_group hp
  refine ⟨group, hgroup, p, ?_, hpkey⟩
  rw [mem_buildTunnelGroups hgroup]
  exact List.mem_filter.mpr ⟨hp, decide_eq_true htunnel.symm⟩

variable {infra syncGroup} {shared : ResolvedConfig} {httpResult : RouteResult HTTPRule}
  {grpcResult : RouteResult GRPCRule}

/-- The error of the whole run is set only when every Gateway is affected. -/
theorem affected_of_syncErr
    (h : (syncAllRoutes infra shared syncGroup httpResult grpcResult).syncErr.isSome = true)
    (gatewayKey : String) :
    Affected infra syncGroup (syncAllRoutes infra shared syncGroup httpResult grpcResult).groups
      gatewayKey := by
  obtain ⟨group, hgroup, hpartition⟩ := exists_serving_group infra shared
    (resolveCrossTypeConflicts httpResult grpcResult).1
    (resolveCrossTypeConflicts httpResult grpcResult).2 gatewayKey
  simp only [syncAllRoutes] at h
  split at h
  · next hall =>
    have hcount := hall.1
    rw [syncTunnelGroups, length_groupErrs, List.length_nil, Nat.zero_add,
      List.countP_eq_length] at hcount
    have hfailed := hcount group hgroup
    exact .inr ⟨group, hgroup, hfailed, hpartition⟩
  · cases h

/-- What the status writer finds for an accepted reference. -/
theorem isSome_perParentSyncErr {result : RouteResult Rule} {route : Route Rule} {refIdx : ℕ}
    {gatewayKey : String}
    (hparent : (result.bindingOf route).parentGateways.lookup refIdx = some gatewayKey)
    (haccepted : gatewayKey ∈ (result.bindingOf route).acceptedGateways) :
    let run := syncAllRoutes infra shared syncGroup httpResult grpcResult
    (perParentSyncErr (run.statusBinding infra result route) refIdx run.syncErr).isSome = true ↔
      Affected infra syncGroup run.groups gatewayKey := by
  intro run
  have hlookup : (run.statusBinding infra result route).syncErrByGateway.lookup gatewayKey =
      gatewaySyncError infra gatewayKey run.outcome.failedPartitions :=
    lookup_filterMap_key _ haccepted
  have hcharged : (gatewaySyncError infra gatewayKey run.outcome.failedPartitions).isSome = true ↔
      Affected infra syncGroup run.groups gatewayKey := by
    have hmarked : ∀ key, (run.outcome.failedPartitions.lookup key).isSome = true ↔
        PartitionFailed syncGroup run.groups key := isSome_lookup_failedPartitions syncGroup _
    rw [gatewaySyncError, Affected, ← hmarked, servingPartition]
    by_cases hbroken : infra.isBroken gatewayKey = true <;> simp [hbroken]
  have hbinding : (run.statusBinding infra result route).info = result.bindingOf route := rfl
  rw [perParentSyncErr, hbinding, hparent]
  simp only [hlookup, Option.isSome_or, Bool.or_eq_true, hcharged]
  constructor
  · rintro (haffected | hglobal)
    · exact haffected
    · exact affected_of_syncErr hglobal gatewayKey
  · exact .inl

end Reports

section Status

variable (cluster : Cluster) (lib : GoLib) (controllerName : String)
  (ownership : String → List Hostname → Option String) {Rule HTTPRule GRPCRule : Type}
  (infra : InfraGateways) (shared : ResolvedConfig)
  (syncGroup : TunnelGroup HTTPRule GRPCRule → TunnelGroupResult)

/-- The writer is handed the outcome of the run for the route. -/
def WrittenFrom (run : SyncRun HTTPRule GRPCRule) (result : RouteResult Rule) (route : Route Rule)
    (update : StatusUpdate) : Prop :=
  update.binding = run.statusBinding infra result route ∧ update.syncErr = run.syncErr

/-- The status of the routes of one kind after a run. An accepted reference is reported
as pending exactly when its Gateway is affected, and as accepted otherwise; a rejected one
with the reason and the message of its binding. -/
structure ReportsFailures (kind : RouteKind) (run : SyncRun HTTPRule GRPCRule)
    (routes : RouteList Rule) (result : RouteResult Rule) : Prop where
  accepted : ∀ route ∈ routes.items, ∀ refIdx ref bound,
    route.parentRefs[refIdx]? = some ref →
    (result.bindingOf route).bindingResults.lookup refIdx = some bound → bound.accepted = true →
    ∃ binding, resolveRouteParentBinding cluster lib controllerName ref (routeInfo kind route ref) =
        .ok (some binding) ∧
      ∀ update generation ruleCount, WrittenFrom infra run result route update →
        update.acceptedOverride = none →
        (diagnosticConditions update.diagnostics ruleCount generation update.now).1 = none →
        ∀ condition ∈ (buildParentStatus update ref route.id.ns generation ruleCount
          refIdx).conditions, condition.type = "Accepted" →
          (condition.status = .isFalse ∧ condition.reason = "Pending" ↔
            Affected infra syncGroup run.groups binding.gatewayKey) ∧
          (¬ Affected infra syncGroup run.groups binding.gatewayKey →
            condition.status = .isTrue ∧ condition.reason = "Accepted")
  rejected : ∀ route ∈ routes.items, ∀ refIdx ref bound,
    (result.bindingOf route).bindingResults.lookup refIdx = some bound → bound.accepted = false →
    ∀ update generation ruleCount, WrittenFrom infra run result route update →
      ∀ condition ∈ (buildParentStatus update ref route.id.ns generation ruleCount
        refIdx).conditions, condition.type = "Accepted" →
        condition.status = .isFalse ∧ condition.reason = reasonText bound.reason ∧
          condition.message = bound.message

variable {cluster lib controllerName ownership infra shared syncGroup}

theorem reportsFailures {kind : RouteKind} {httpResult : RouteResult HTTPRule}
    {grpcResult : RouteResult GRPCRule} {routes : RouteList Rule} {result : RouteResult Rule}
    (hbound : ∀ route ∈ routes.items, Attributed cluster lib controllerName kind route
      route.parentRefs.zipIdx (result.bindingOf route)) :
    ReportsFailures cluster lib controllerName infra syncGroup kind
      (syncAllRoutes infra shared syncGroup httpResult grpcResult) routes result where
  accepted := by
    intro route hroute refIdx ref bound href hlookup haccepted
    obtain ⟨ref', binding, hmem, hresolve, hparent, hgateway⟩ :=
      (hbound route hroute).gateway refIdx bound hlookup
    have hsame : ref' = ref := by
      have hget := List.mk_mem_zipIdx_iff_getElem?.mp hmem
      rw [href, Option.some.injEq] at hget
      exact hget.symm
    subst hsame
    refine ⟨binding, hresolve, ?_⟩
    intro update generation ruleCount hwritten hoverride hdiagnostic condition hcondition htype
    have haffected : (perParentSyncErr update.binding refIdx update.syncErr).isSome = true ↔
        Affected infra syncGroup (syncAllRoutes infra shared syncGroup httpResult grpcResult).groups
          binding.gatewayKey := by
      rw [hwritten.1, hwritten.2]
      exact isSome_perParentSyncErr hparent (hgateway haccepted)
    have hkept : rejection update.binding refIdx = none := by
      rw [hwritten.1, rejection]
      change ((result.bindingOf route).bindingResults.lookup refIdx).filter _ = none
      rw [hlookup]
      simp [haccepted]
    rw [(of_mem_buildConditions hcondition).2 htype, acceptedCondition, hoverride, hdiagnostic,
      buildAcceptedCondition.eq_def, hkept]
    cases herr : perParentSyncErr update.binding refIdx update.syncErr with
    | some err =>
      rw [herr] at haffected
      exact ⟨⟨fun _ => haffected.mp rfl, fun _ => ⟨rfl, rfl⟩⟩,
        fun hnot => absurd (haffected.mp rfl) hnot⟩
    | none =>
      rw [herr] at haffected
      have hnot : ¬ Affected infra syncGroup
          (syncAllRoutes infra shared syncGroup httpResult grpcResult).groups
          binding.gatewayKey := by
        intro h
        cases haffected.mpr h
      refine ⟨⟨fun h => ?_, fun h => absurd h hnot⟩, fun _ => ⟨rfl, rfl⟩⟩
      cases h.1
  rejected := by
    intro route _ refIdx ref bound hlookup hrejected update generation ruleCount hwritten
      condition hcondition htype
    have hturned : rejection update.binding refIdx = some bound := by
      rw [hwritten.1, rejection]
      change ((result.bindingOf route).bindingResults.lookup refIdx).filter _ = some bound
      rw [hlookup]
      simp [hrejected]
    rw [(of_mem_buildConditions hcondition).2 htype, acceptedCondition,
      buildAcceptedCondition.eq_def, hturned]
    exact ⟨rfl, rfl, rfl⟩

variable (cluster lib controllerName ownership infra shared syncGroup)

/-- For all routes, Gateways, tunnels and failing groups, the failures of a run reach the
parents they affect and no other. -/
theorem sync_failures_reach_affected_parents (httpRoutes : RouteList HTTPRule)
    (grpcRoutes : RouteList GRPCRule) :
    let run := syncAllRoutes infra shared syncGroup
      (getRelevantRoutes cluster lib controllerName ownership .HTTPRoute httpRoutes)
      (getRelevantRoutes cluster lib controllerName ownership .GRPCRoute grpcRoutes)
    ReportsFailures cluster lib controllerName infra syncGroup .HTTPRoute run httpRoutes
      run.httpResult ∧
    ReportsFailures cluster lib controllerName infra syncGroup .GRPCRoute run grpcRoutes
      run.grpcResult :=
  ⟨reportsFailures fun _ hroute => attributed_bindingOf hroute _,
    reportsFailures fun _ hroute => attributed_bindingOf hroute _⟩

end Status

end TunnelGateway.SyncErrors
