import TunnelGateway.DedupBy
import TunnelGateway.FailedRefs
import TunnelGateway.RouteCollection
import TunnelGateway.RouteDiagnostics

/-!
The status a sync writes for a route: one entry for each parent reference that
leads to a managed Gateway, with conditions built from the binding, the sync
errors, the failed references and the diagnostics of the route. The references
and the generation come from the object as it is at the time of the write, the
bindings from the object as it was listed.
-/
namespace TunnelGateway.RouteStatus

open GoText GatewayApi RouteBinding ListenerMerge ParentBinding FailedRefs RouteDiagnostics DedupBy

section Conditions

inductive ConditionStatus where
  | isTrue
  | isFalse
  | isUnknown
  deriving DecidableEq

structure Condition where
  type : String
  status : ConditionStatus
  observedGeneration : ℕ
  lastTransitionTime : ℤ
  reason : String
  message : String
  deriving DecidableEq

structure RouteParentStatus where
  parentRef : ParentReference
  controllerName : String
  conditions : List Condition
  deriving DecidableEq

structure AcceptedConditionOverride where
  reason : String
  message : String
  deriving DecidableEq

/-- The bindings of a route with the sync errors of the tunnels behind them. -/
structure StatusBinding where
  info : RouteBindingInfo
  syncErrByGateway : List (String × String) := []

def reasonText : RouteConditionReason → String
  | .accepted => "Accepted"
  | .noMatchingListenerHostname => "NoMatchingListenerHostname"
  | .notAllowedByListeners => "NotAllowedByListeners"
  | .noMatchingParent => "NoMatchingParent"
  | .hostnameNotPermitted => "HostnameNotPermitted"
  | .conflicted => "Conflicted"

def backendReasonText : BackendRefReason → String
  | .invalidKind => "InvalidKind"
  | .refNotPermitted => "RefNotPermitted"
  | .backendNotFound => "BackendNotFound"
  | .unsupportedValue => "UnsupportedValue"

def conditionMessageMaxLength : ℕ := 32768

def conditionTruncationMarker : String := "..."

/-- The longest start of a text that fits into `n` bytes. -/
def takeBytes : ℕ → List Char → List Char
  | _, [] => []
  | n, c :: rest => if c.utf8Size ≤ n then c :: takeBytes (n - c.utf8Size) rest else []

def truncateUTF8 (msg : String) (maxLen : ℕ) : String :=
  if len msg ≤ maxLen then msg
  else if maxLen ≤ len conditionTruncationMarker then conditionTruncationMarker
  else String.ofList (takeBytes (maxLen - len conditionTruncationMarker) msg.toList) ++
    conditionTruncationMarker

def truncateConditionMessage (msg : String) : String := truncateUTF8 msg conditionMessageMaxLength

/-- The first occurrence of each value. -/
def distinct {α : Type} [DecidableEq α] (values : List α) : List α := dedupBy id [] values

def droppedConfigMessage (diagnostics : List RouteDiagnostic) (isPartial : Bool) : String :=
  let ruleIdx := (distinct (diagnostics.map (·.ruleIndex))).insertionSort (· ≤ ·)
  let detail := " ".intercalate (distinct (diagnostics.map (·.message)))
  if isPartial then
    truncateConditionMessage
      ("Dropped Rule " ++ ", ".intercalate (ruleIdx.map toString) ++ ": " ++ detail)
  else truncateConditionMessage detail

/-- Either every rule is unservable and the route is not accepted, or some are
dropped and the route still serves. -/
def diagnosticConditions (diagnostics : List RouteDiagnostic) (ruleCount generation : ℕ)
    (now : ℤ) : Option AcceptedConditionOverride × Option Condition :=
  let accepted := diagnostics.filter (·.target = .accepted)
  let wholeRuleIdx := distinct ((accepted.filter (·.wholeRule)).map (·.ruleIndex))
  if accepted = [] then (none, none)
  else if ruleCount > 0 ∧ wholeRuleIdx.length ≥ ruleCount then
    (some ⟨"UnsupportedValue", droppedConfigMessage accepted false⟩, none)
  else
    (none, some ⟨"PartiallyInvalid", .isTrue, generation, now, "UnsupportedValue",
      droppedConfigMessage accepted true⟩)

/-- One condition for all diagnostics with a target; its absence is the cleared
state. -/
def buildDiagnosticCondition (diagnostics : List RouteDiagnostic) (target : DiagnosticTarget)
    (conditionType : String) (status : ConditionStatus) (reason : String) (generation : ℕ)
    (now : ℤ) : Option Condition :=
  let messages := distinct ((diagnostics.filter (·.target = target)).map (·.message))
  if messages = [] then none
  else some ⟨conditionType, status, generation, now, reason,
    truncateConditionMessage (" | ".intercalate messages)⟩

def buildShadowedCondition (diagnostics : List RouteDiagnostic) (generation : ℕ) (now : ℤ) :
    Option Condition :=
  buildDiagnosticCondition diagnostics .shadowed "cf.k8s.lex.la/RouteShadowed" .isTrue
    "HostnameMatchShadowed" generation now

def buildPushedCondition (diagnostics : List RouteDiagnostic) (generation : ℕ) (now : ℤ) :
    Option Condition :=
  buildDiagnosticCondition diagnostics .proxyConfigPush "cf.k8s.lex.la/ProxyConfigPushed" .isFalse
    "ProxyConfigPushFailed" generation now

def buildSharedCondition (diagnostics : List RouteDiagnostic) (generation : ℕ) (now : ℤ) :
    Option Condition :=
  buildDiagnosticCondition diagnostics .tunnelShared "cf.k8s.lex.la/TunnelShared" .isTrue
    "TunnelSharedAcrossNamespaces" generation now

/-- The error of the tunnel behind a reference, or else the one of the whole
sync. -/
def perParentSyncErr (binding : StatusBinding) (refIdx : ℕ) (globalErr : Option String) :
    Option String :=
  match binding.info.parentGateways.lookup refIdx with
  | none => globalErr
  | some gatewayKey => (binding.syncErrByGateway.lookup gatewayKey).or globalErr

def routeAcceptedMessage : String := "Route accepted and programmed in Cloudflare Tunnel"

def resolvedRefsMessage : String := "All references resolved"

/-- The result of a reference that its binding rejects. -/
def rejection (binding : StatusBinding) (refIdx : ℕ) : Option BindingResult :=
  (binding.info.bindingResults.lookup refIdx).filter (!·.accepted)

/-- A rejected binding outranks a sync error, which outranks an override. A
reference without a binding result counts as accepted. -/
def buildAcceptedCondition (generation : ℕ) (now : ℤ) (binding : StatusBinding) (refIdx : ℕ)
    (syncErr : Option String) (override : Option AcceptedConditionOverride) : Condition :=
  match rejection binding refIdx with
  | some result =>
      ⟨"Accepted", .isFalse, generation, now, reasonText result.reason, result.message⟩
  | none =>
      match perParentSyncErr binding refIdx syncErr with
      | some err =>
          ⟨"Accepted", .isFalse, generation, now, "Pending", truncateConditionMessage err⟩
      | none =>
          match override with
          | some o => ⟨"Accepted", .isFalse, generation, now, o.reason, o.message⟩
          | none => ⟨"Accepted", .isTrue, generation, now, "Accepted", routeAcceptedMessage⟩

def buildFailedRefsMessage (failedRefs : List BackendRefError) : String :=
  "Backend references not permitted: " ++
    ", ".intercalate (failedRefs.map fun ref => ref.backendNS ++ "/" ++ ref.backendName)

/-- A failed reference outranks a diagnostic; one of either kind is named. -/
def buildResolvedRefsCondition (generation : ℕ) (now : ℤ) (failedRefs : List BackendRefError)
    (diagnostics : List RouteDiagnostic) : Condition :=
  match failedRefs with
  | ref :: _ =>
      ⟨"ResolvedRefs", .isFalse, generation, now, backendReasonText ref.reason,
        buildFailedRefsMessage failedRefs⟩
  | [] =>
      match diagnostics.find? (·.target = .resolvedRefs) with
      | some diag =>
          ⟨"ResolvedRefs", .isFalse, generation, now,
            if diag.reason = "" then "UnsupportedProtocol" else diag.reason, diag.message⟩
      | none => ⟨"ResolvedRefs", .isTrue, generation, now, "ResolvedRefs", resolvedRefsMessage⟩

end Conditions

section Parents

/-- What one sync brings to the writer of a route's status. -/
structure StatusUpdate where
  controllerName : String
  acceptedOverride : Option AcceptedConditionOverride := none
  diagnostics : List RouteDiagnostic := []
  reconciledGeneration : ℕ
  binding : StatusBinding
  failedRefs : List BackendRefError := []
  syncErr : Option String := none
  now : ℤ := 0

/-- The informational conditions stand beside an accepted route only. -/
def buildConditions (update : StatusUpdate) (generation ruleCount refIdx : ℕ) : List Condition :=
  let diag := diagnosticConditions update.diagnostics ruleCount generation update.now
  let accepted := buildAcceptedCondition generation update.now update.binding refIdx update.syncErr
    (update.acceptedOverride.or diag.1)
  let resolvedRefs := buildResolvedRefsCondition generation update.now update.failedRefs
    update.diagnostics
  let informational := [diag.2, buildShadowedCondition update.diagnostics generation update.now,
    buildPushedCondition update.diagnostics generation update.now,
    buildSharedCondition update.diagnostics generation update.now]
  accepted :: resolvedRefs ::
    (if accepted.status = .isTrue then informational.filterMap id else [])

/-- The entry repeats the reference with its namespace filled in. -/
def buildParentStatus (update : StatusUpdate) (ref : ParentReference) (routeNamespace : String)
    (generation ruleCount refIdx : ℕ) : RouteParentStatus where
  parentRef := { ref with ns := some (refNamespace ref routeNamespace) }
  controllerName := update.controllerName
  conditions := buildConditions update generation ruleCount refIdx

/-- The route as the writer reads it. -/
structure RouteObject where
  ns : String
  generation : ℕ
  parentRefs : List ParentReference
  ruleCount : ℕ
  parents : List RouteParentStatus

/-- Some condition was stamped with a generation after the reconciled one. -/
def statusGenerationStale (reconciledGen : ℕ) (conditions : List Condition) : Bool :=
  conditions.any (reconciledGen < ·.observedGeneration)

def routeParentStatusMaxCount : ℕ := 32

def isOwn (controllerName : String) (parent : RouteParentStatus) : Bool :=
  parent.controllerName = controllerName

variable (selects : ParentReference → Bool)

def ownParentStatuses (update : StatusUpdate) (route : RouteObject) : List RouteParentStatus :=
  route.parentRefs.zipIdx.filterMap fun entry =>
    if selects entry.1 then
      some (buildParentStatus update entry.1 route.ns route.generation route.ruleCount entry.2)
    else none

/-- The entries the write leaves, or `none` when a newer reconcile owns the
status. `selects` is `parentRefSelectsManagedGateway` as the API answers at the
time of the write, where a failed read counts as not managed. -/
def updateRouteParentStatuses (update : StatusUpdate) (route : RouteObject) :
    Option (List RouteParentStatus) :=
  let own := route.parents.filter (isOwn update.controllerName)
  let foreign := route.parents.filter (!isOwn update.controllerName ·)
  if own.any (statusGenerationStale update.reconciledGeneration ·.conditions) then none
  else
    some ((ownParentStatuses selects update route).take
      (routeParentStatusMaxCount - foreign.length) ++ foreign)

end Parents

section Stamps

variable {diagnostics : List RouteDiagnostic} {generation ruleCount refIdx : ℕ} {now : ℤ}
  {condition : Condition}

theorem of_buildDiagnosticCondition {target : DiagnosticTarget} {conditionType reason : String}
    {status : ConditionStatus}
    (h : buildDiagnosticCondition diagnostics target conditionType status reason generation now =
      some condition) :
    condition.type = conditionType ∧ condition.observedGeneration = generation := by
  simp only [buildDiagnosticCondition, Option.ite_none_left_eq_some, Option.some.injEq] at h
  obtain ⟨-, rfl⟩ := h
  exact ⟨rfl, rfl⟩

theorem of_diagnosticConditions
    (h : (diagnosticConditions diagnostics ruleCount generation now).2 = some condition) :
    condition.type = "PartiallyInvalid" ∧ condition.observedGeneration = generation := by
  unfold diagnosticConditions at h
  simp only at h
  split at h
  · cases h
  · split at h
    · cases h
    · cases h
      exact ⟨rfl, rfl⟩

theorem of_buildResolvedRefsCondition (generation : ℕ) (now : ℤ)
    (failedRefs : List BackendRefError) (diagnostics : List RouteDiagnostic) :
    (buildResolvedRefsCondition generation now failedRefs diagnostics).type = "ResolvedRefs" ∧
      (buildResolvedRefsCondition generation now failedRefs diagnostics).observedGeneration =
        generation := by
  unfold buildResolvedRefsCondition
  cases failedRefs with
  | cons ref rest => exact ⟨rfl, rfl⟩
  | nil => cases diagnostics.find? (·.target = .resolvedRefs) <;> exact ⟨rfl, rfl⟩

theorem of_buildAcceptedCondition (binding : StatusBinding) (syncErr : Option String)
    (override : Option AcceptedConditionOverride) :
    (buildAcceptedCondition generation now binding refIdx syncErr override).type = "Accepted" ∧
      (buildAcceptedCondition generation now binding refIdx syncErr override).observedGeneration =
        generation := by
  unfold buildAcceptedCondition
  cases rejection binding refIdx with
  | some result => exact ⟨rfl, rfl⟩
  | none =>
    cases perParentSyncErr binding refIdx syncErr with
    | some err => exact ⟨rfl, rfl⟩
    | none => cases override <;> exact ⟨rfl, rfl⟩

/-- The `Accepted` condition of one entry. -/
def acceptedCondition (update : StatusUpdate) (generation ruleCount refIdx : ℕ) : Condition :=
  buildAcceptedCondition generation update.now update.binding refIdx update.syncErr
    (update.acceptedOverride.or
      (diagnosticConditions update.diagnostics ruleCount generation update.now).1)

/-- Every condition of an entry is stamped with the generation of the write, and
only the first one is the `Accepted` one. -/
theorem of_mem_buildConditions {update : StatusUpdate}
    (h : condition ∈ buildConditions update generation ruleCount refIdx) :
    condition.observedGeneration = generation ∧
      (condition.type = "Accepted" →
        condition = acceptedCondition update generation ruleCount refIdx) := by
  unfold buildConditions at h
  simp only [List.mem_cons] at h
  rcases h with rfl | rfl | h
  · exact ⟨(of_buildAcceptedCondition _ _ _).2, fun _ => rfl⟩
  · obtain ⟨htype, hgeneration⟩ := of_buildResolvedRefsCondition generation update.now
      update.failedRefs update.diagnostics
    exact ⟨hgeneration, fun hsame => by simp [htype] at hsame⟩
  · have hother : condition.observedGeneration = generation ∧ condition.type ≠ "Accepted" := by
      split at h
      · simp only [List.mem_filterMap, id_eq, exists_eq_right, List.mem_cons, List.not_mem_nil,
          or_false] at h
        rcases h with h | h | h | h
        · obtain ⟨htype, hgeneration⟩ := of_diagnosticConditions h.symm
          exact ⟨hgeneration, by simp [htype]⟩
        · obtain ⟨htype, hgeneration⟩ := of_buildDiagnosticCondition h.symm
          exact ⟨hgeneration, by simp [htype]⟩
        · obtain ⟨htype, hgeneration⟩ := of_buildDiagnosticCondition h.symm
          exact ⟨hgeneration, by simp [htype]⟩
        · obtain ⟨htype, hgeneration⟩ := of_buildDiagnosticCondition h.symm
          exact ⟨hgeneration, by simp [htype]⟩
      · cases h
    exact ⟨hother.1, fun hsame => absurd hsame hother.2⟩

end Stamps

section Writes

variable {selects : ParentReference → Bool} {update : StatusUpdate} {route : RouteObject}
  {statuses : List RouteParentStatus}

theorem ownParentStatuses_eq (selects : ParentReference → Bool) (update : StatusUpdate)
    (route : RouteObject) :
    ownParentStatuses selects update route =
      (route.parentRefs.zipIdx.filter fun entry => selects entry.1).map fun entry =>
        buildParentStatus update entry.1 route.ns route.generation route.ruleCount entry.2 := by
  rw [← List.filterMap_eq_map, List.filterMap_filter]
  rfl

variable {status : RouteParentStatus} {condition : Condition}

/-- The entries of ours that a write leaves. -/
theorem mem_updateRouteParentStatuses
    (h : updateRouteParentStatuses selects update route = some statuses)
    (hown : isOwn update.controllerName status = true) :
    status ∈ statuses ↔
      ∃ entry ∈ (route.parentRefs.zipIdx.filter fun entry => selects entry.1).take
          (routeParentStatusMaxCount -
            (route.parents.filter (!isOwn update.controllerName ·)).length),
        status =
          buildParentStatus update entry.1 route.ns route.generation route.ruleCount entry.2 := by
  unfold updateRouteParentStatuses at h
  simp only [Option.ite_none_left_eq_some, Option.some.injEq] at h
  obtain ⟨-, rfl⟩ := h
  have hforeign : status ∉ route.parents.filter (!isOwn update.controllerName ·) := by
    intro hmem
    have hnot := (List.mem_filter.mp hmem).2
    simp [hown] at hnot
  rw [List.mem_append, ownParentStatuses_eq, ← List.map_take, List.mem_map]
  constructor
  · intro hmem
    rcases hmem with ⟨entry, hentry, heq⟩ | hmem
    · exact ⟨entry, hentry, heq.symm⟩
    · exact absurd hmem hforeign
  · intro hmem
    obtain ⟨entry, hentry, heq⟩ := hmem
    exact Or.inl ⟨entry, hentry, heq.symm⟩

/-- A write stamps the generation of the object it read. -/
theorem observedGeneration_of_write
    (h : updateRouteParentStatuses selects update route = some statuses)
    (hmem : status ∈ statuses) (hown : isOwn update.controllerName status = true)
    (hcondition : condition ∈ status.conditions) :
    condition.observedGeneration = route.generation := by
  obtain ⟨entry, -, rfl⟩ := (mem_updateRouteParentStatuses h hown).mp hmem
  exact (of_mem_buildConditions hcondition).1

/-- No write happens over an entry of ours that is stamped past the reconciled
generation. -/
theorem observedGeneration_le_of_write
    (h : updateRouteParentStatuses selects update route = some statuses)
    (hmem : status ∈ route.parents) (hown : isOwn update.controllerName status = true)
    (hcondition : condition ∈ status.conditions) :
    condition.observedGeneration ≤ update.reconciledGeneration := by
  unfold updateRouteParentStatuses at h
  simp only [Option.ite_none_left_eq_some] at h
  apply Nat.le_of_not_lt
  intro hlater
  apply h.1
  apply List.any_eq_true.mpr
  refine ⟨status, List.mem_filter.mpr ⟨hmem, hown⟩, ?_⟩
  exact List.any_eq_true.mpr ⟨condition, hcondition, decide_eq_true hlater⟩

end Writes

section Selection

variable (cluster : Cluster) (controllerName : String)

/-- The Gateway a reference leads to, directly or through a ListenerSet. -/
def resolveParentGatewayFromRef (ref : ParentReference) (routeNamespace : String) :
    Option Gateway :=
  if ref.group.any fun group => group ≠ "" ∧ group ≠ groupName then none
  else
    let kind := ref.kind.getD kindGateway
    let ns := refNamespace ref routeNamespace
    if kind = kindGateway then cluster.getGateway ns ref.name
    else if kind = kindListenerSet then
      (cluster.getListenerSet ns ref.name).bind (listenerSetParentGateway cluster)
    else none

def parentRefSelectsManagedGateway (ref : ParentReference) (routeNamespace : String) : Bool :=
  (resolveParentGatewayFromRef cluster ref routeNamespace).any
    (gatewayIsManaged cluster controllerName)

end Selection

section Entries

/-- What the status writer is handed for one route. -/
structure RouteStatusEntry where
  id : NamespacedName
  binding : StatusBinding
  failedRefs : List BackendRefError
  diagnostics : List RouteDiagnostic

def filterFailedRefs (all : List BackendRefError) (routeNamespace routeName : String) :
    List BackendRefError :=
  all.filter fun ref => ref.routeNamespace = routeNamespace ∧ ref.routeName = routeName

def filterDiagnostics (all : List RouteDiagnostic) (routeNamespace routeName : String) :
    List RouteDiagnostic :=
  all.filter fun diag => diag.ns = routeNamespace ∧ diag.name = routeName

variable {Rule : Type}

def buildStatusEntries (routes : List (Route Rule)) (bindings : List (String × StatusBinding))
    (failedRefs : List BackendRefError) (diagnostics : List RouteDiagnostic) :
    List RouteStatusEntry :=
  routes.map fun route =>
    ⟨route.id, (bindings.lookup route.id.key).getD ⟨.empty, []⟩,
      filterFailedRefs failedRefs route.id.ns route.id.name,
      filterDiagnostics diagnostics route.id.ns route.id.name⟩

/-- The routes of one kind in the result of a sync. -/
structure KindResult (Rule : Type) where
  accepted : List (Route Rule)
  rejected : List (Route Rule)
  bindings : List (String × StatusBinding)
  failedRefs : List BackendRefError

/-- `httpStatusEntries` and `grpcStatusEntries`: a route rejected at binding has
neither failed references nor diagnostics. -/
def statusEntries (result : KindResult Rule) (diagnostics : List RouteDiagnostic) :
    List RouteStatusEntry :=
  buildStatusEntries result.accepted result.bindings result.failedRefs diagnostics ++
    buildStatusEntries result.rejected result.bindings [] []

end Entries

end TunnelGateway.RouteStatus
