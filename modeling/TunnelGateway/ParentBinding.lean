import TunnelGateway.ListenerMerge

/-!
Which of a route's parent references bind it, as the route status and the
partitioning see it: the reference must lead to a Gateway of one of our classes,
a ListenerSet must be allowed to attach, and conflicted listeners do not count.
-/
namespace TunnelGateway.ParentBinding

open GoText Fallible Hostname GatewayApi RouteBinding ListenerMerge

/-- The outcome for a reference that leads to a managed Gateway. -/
structure ParentRefBinding where
  result : BindingResult
  gateway : NamespacedName

/-- The `GatewayKey` of a binding. -/
def ParentRefBinding.gatewayKey (binding : ParentRefBinding) : String := binding.gateway.key

def msgConflictedListeners : String :=
  "Matched listener entries are conflicted with higher-precedence listeners"

/-- What a reference asks of the route's hostnames and kind. -/
def routeInfo {Rule : Type} (kind : RouteKind) (route : Route Rule) (ref : ParentReference) :
    RouteInfo :=
  ⟨route.id.name, route.id.ns, route.hostnames, kind, ref.sectionName, ref.port⟩

/-- The namespace a reference points into. -/
def refNamespace (ref : ParentReference) (routeNamespace : String) : String :=
  ref.ns.getD routeNamespace

section Resolution

variable (cluster : Cluster) (lib : GoLib) (controllerName : String)

def gatewayIsManaged (gateway : Gateway) : Bool :=
  gateway.gatewayClassName ∈ cluster.managedClassNames controllerName

/-- Drop matched listeners the merged view of `gateway` marks as conflicted; a
view that cannot be computed drops nothing. -/
def filterMatchedByConflict (gateway : Gateway) (parent : Parent) (result : BindingResult) :
    BindingResult :=
  match mergedView cluster gateway with
  | .error _ => result
  | .ok merged =>
      let kept := result.matchedListeners.filter fun name =>
        (conflictReasonOf merged parent name).isNone
      if kept.isEmpty then ⟨false, .noMatchingParent, msgConflictedListeners, []⟩
      else { result with matchedListeners := kept }

def resolveGatewayParentBinding (ref : ParentReference) (route : RouteInfo) :
    Except String (Option ParentRefBinding) :=
  match cluster.getGateway (refNamespace ref route.ns) ref.name with
  | none => .ok none
  | some gateway =>
      if !gatewayIsManaged cluster controllerName gateway then .ok none
      else do
        let result ← wrap "failed to validate route binding against gateway"
          (validateBinding cluster lib gateway route)
        let result := if result.accepted then
            filterMatchedByConflict cluster gateway .gateway result
          else result
        return some ⟨result, gateway.id⟩

def resolveListenerSetParentBinding (ref : ParentReference) (route : RouteInfo) :
    Except String (Option ParentRefBinding) :=
  match cluster.getListenerSet (refNamespace ref route.ns) ref.name with
  | none => .ok none
  | some listenerSet =>
      match listenerSetParentGateway cluster listenerSet with
      | none => .ok none
      | some parent =>
          if !gatewayIsManaged cluster controllerName parent then .ok none
          else do
            let allowed ← wrap "failed to evaluate listenerset acceptance"
              (evaluateListenerSetAcceptance cluster parent listenerSet)
            if !allowed.accepted then
              return some ⟨⟨false, .noMatchingParent,
                "Parent ListenerSet is not allowed by the Gateway", []⟩, parent.id⟩
            let result ← wrap "failed to validate route binding against listenerset"
              (validateBindingForListenerSet cluster lib listenerSet route)
            let result := if result.accepted then
                filterMatchedByConflict cluster parent (.listenerSet listenerSet.id) result
              else result
            return some ⟨result, parent.id⟩

/-- `none` is a reference this controller does not manage. The group of the
reference is not looked at. -/
def resolveRouteParentBinding (ref : ParentReference) (route : RouteInfo) :
    Except String (Option ParentRefBinding) :=
  let kind := ref.kind.getD kindGateway
  if kind = kindGateway then resolveGatewayParentBinding cluster lib controllerName ref route
  else if kind = kindListenerSet then
    resolveListenerSetParentBinding cluster lib controllerName ref route
  else .ok none

end Resolution

/-- A route's binding outcome: results and Gateways by reference index, and the
set of Gateways it is accepted on. -/
structure RouteBindingInfo where
  bindingResults : List (ℕ × BindingResult)
  acceptedGateways : List String
  parentGateways : List (ℕ × String)
  accepted_nodup : acceptedGateways.Nodup

def RouteBindingInfo.empty : RouteBindingInfo := ⟨[], [], [], List.nodup_nil⟩

/-- Add a key to the set of accepted Gateways. -/
def RouteBindingInfo.accept (info : RouteBindingInfo) (gatewayKey : String) : RouteBindingInfo :=
  { info with
    acceptedGateways := info.acceptedGateways.insert gatewayKey
    accepted_nodup := info.accepted_nodup.insert }

section Collection

variable (cluster : Cluster) (lib : GoLib) (controllerName : String) {Rule : Type}

/-- The updated outcome, whether the reference is ours and whether it accepts. -/
def bindOneParent (kind : RouteKind) (route : Route Rule) (refIdx : ℕ) (ref : ParentReference)
    (info : RouteBindingInfo) : RouteBindingInfo × Bool × Bool :=
  match resolveRouteParentBinding cluster lib controllerName ref (routeInfo kind route ref) with
  | .error _ => (info, false, false)
  | .ok none => (info, false, false)
  | .ok (some binding) =>
      let info := { info with
        bindingResults := info.bindingResults ++ [(refIdx, binding.result)]
        parentGateways := info.parentGateways ++ [(refIdx, binding.gatewayKey)] }
      if binding.result.accepted then (info.accept binding.gatewayKey, true, true)
      else (info, true, false)

/-- Every otherwise accepted binding is rejected with the policy's message. -/
def RouteBindingInfo.deny (info : RouteBindingInfo) (message : String) : RouteBindingInfo :=
  { info with
    bindingResults := info.bindingResults.map fun entry =>
      if entry.2.accepted then (entry.1, ⟨false, .hostnameNotPermitted, message, []⟩) else entry
    acceptedGateways := []
    accepted_nodup := List.nodup_nil }

/-- One pass of the loop over the references. -/
def bindNextParent (kind : RouteKind) (route : Route Rule) (state : RouteBindingInfo × Bool × Bool)
    (entry : ParentReference × ℕ) : RouteBindingInfo × Bool × Bool :=
  let (info, referenced, accepted) :=
    bindOneParent cluster lib controllerName kind route entry.2 entry.1 state.1
  (info, state.2.1 || accepted, state.2.2 || referenced)

/-- The binding outcome, whether the route is accepted and whether it refers to
a Gateway of ours. `ownership` is the hostname-ownership policy: a message denies
the route's namespace its hostnames. -/
def bindRouteParents (ownership : String → List Hostname → Option String) (kind : RouteKind)
    (route : Route Rule) : RouteBindingInfo × Bool × Bool :=
  let (info, hasAccepted, referencesUs) :=
    route.parentRefs.zipIdx.foldl (bindNextParent cluster lib controllerName kind route)
      (RouteBindingInfo.empty, false, false)
  if hasAccepted then
    match ownership route.id.ns route.hostnames with
    | some message => (info.deny message, false, referencesUs)
    | none => (info, true, referencesUs)
  else (info, false, referencesUs)

/-- The Gateway a managed and accepted reference leads to. -/
def acceptedGatewayKey (kind : RouteKind) (route : Route Rule) (ref : ParentReference) :
    Option String :=
  match resolveRouteParentBinding cluster lib controllerName ref (routeInfo kind route ref) with
  | .ok (some binding) => if binding.result.accepted then some binding.gatewayKey else none
  | _ => none

theorem acceptedGateways_bindOneParent (kind : RouteKind) (route : Route Rule) (refIdx : ℕ)
    (ref : ParentReference) (info : RouteBindingInfo) (key : String) :
    key ∈ (bindOneParent cluster lib controllerName kind route refIdx ref info).1.acceptedGateways ↔
      key ∈ info.acceptedGateways ∨
        acceptedGatewayKey cluster lib controllerName kind route ref = some key := by
  unfold bindOneParent acceptedGatewayKey
  generalize resolveRouteParentBinding cluster lib controllerName ref
    (routeInfo kind route ref) = outcome
  rcases outcome with _ | _ | binding
  · simp
  · simp
  · by_cases haccepted : binding.result.accepted = true
    · simp [haccepted, RouteBindingInfo.accept, @eq_comm _ key binding.gatewayKey, or_comm]
    · simp [haccepted]

theorem mem_acceptedGateways_foldl (kind : RouteKind) (route : Route Rule) (key : String)
    (refs : List (ParentReference × ℕ)) (state : RouteBindingInfo × Bool × Bool) :
    key ∈ (refs.foldl (bindNextParent cluster lib controllerName kind route)
        state).1.acceptedGateways ↔
      key ∈ state.1.acceptedGateways ∨
        ∃ ref ∈ refs.map Prod.fst,
          acceptedGatewayKey cluster lib controllerName kind route ref = some key := by
  induction refs generalizing state with
  | nil => simp
  | cons entry rest ih =>
    rw [List.foldl_cons, ih]
    simp only [bindNextParent, acceptedGateways_bindOneParent]
    simp [or_assoc]

/-- An accepted route is accepted on the Gateways its accepting references lead
to. -/
theorem mem_acceptedGateways {ownership : String → List Hostname → Option String}
    {kind : RouteKind} {route : Route Rule}
    (haccepted :
      (bindRouteParents cluster lib controllerName ownership kind route).2.1 = true)
    (key : String) :
    key ∈ (bindRouteParents cluster lib controllerName ownership kind route).1.acceptedGateways ↔
      ∃ ref ∈ route.parentRefs,
        acceptedGatewayKey cluster lib controllerName kind route ref = some key := by
  have hfold := mem_acceptedGateways_foldl cluster lib controllerName kind route key
    route.parentRefs.zipIdx (RouteBindingInfo.empty, false, false)
  unfold bindRouteParents at haccepted ⊢
  simp only at haccepted ⊢
  split at haccepted
  · rename_i hany
    rw [if_pos hany]
    cases hpermitted : ownership route.id.ns route.hostnames with
    | some message =>
      rw [hpermitted] at haccepted
      cases haccepted
    | none =>
      rw [hfold]
      simp [RouteBindingInfo.empty]
  · cases haccepted

end Collection

end TunnelGateway.ParentBinding
