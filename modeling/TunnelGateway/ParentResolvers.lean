import TunnelGateway.EffectiveHostnames
import TunnelGateway.RouteStatus

/-!
Three functions follow a parent reference to a Gateway: the binding check, the
status writer and the pass that reads listeners for hostnames and redirects. Each
is compared with the object the reference's kind and name lead to; they differ in
what they make of the reference's group.
-/
namespace TunnelGateway.ParentResolvers

open GoText Fallible Hostname GatewayApi RouteBinding ListenerMerge ParentBinding
  EffectiveHostnames RouteStatus

/-- The object a reference names by kind, namespace and name. -/
inductive ParentObject where
  | gateway (ns name : String)
  | listenerSet (ns name : String)
  deriving DecidableEq

def parentObject (routeNamespace : String) (ref : ParentReference) : Option ParentObject :=
  let kind := ref.kind.getD kindGateway
  let ns := refNamespace ref routeNamespace
  if kind = kindGateway then some (.gateway ns ref.name)
  else if kind = kindListenerSet then some (.listenerSet ns ref.name)
  else none

section Objects

variable (cluster : Cluster)

/-- The Gateway itself, or the parent of the ListenerSet. -/
def ParentObject.gatewayOf : ParentObject → Option Gateway
  | .gateway ns name => cluster.getGateway ns name
  | .listenerSet ns name =>
      (cluster.getListenerSet ns name).bind (listenerSetParentGateway cluster)

/-- The Gateway a reference leads to when its group is not looked at. -/
def namedGateway (routeNamespace : String) (ref : ParentReference) : Option Gateway :=
  (parentObject routeNamespace ref).bind (·.gatewayOf cluster)

/-- The branch of `resolveParentRefListeners` a reference is handed to. -/
def listenersBranch (routeNamespace : String) (ref : ParentReference) : Option ParentObject :=
  if usesGatewayGroup ref then parentObject routeNamespace ref else none

/-- A Gateway that is found is found again under its own name. -/
theorem getGateway_id_of_namedGateway {routeNamespace : String} {ref : ParentReference}
    {gateway : Gateway} (h : namedGateway cluster routeNamespace ref = some gateway) :
    gateway ∈ cluster.gateways ∧
      cluster.getGateway gateway.id.ns gateway.id.name = some gateway := by
  obtain ⟨object, -, hobject⟩ := Option.bind_eq_some_iff.mp h
  obtain ⟨ns, name, hget⟩ : ∃ ns name, cluster.getGateway ns name = some gateway := by
    cases object with
    | gateway ns name => exact ⟨ns, name, hobject⟩
    | listenerSet ns name =>
      obtain ⟨listenerSet, -, hparent⟩ := Option.bind_eq_some_iff.mp hobject
      exact ⟨_, _, hparent⟩
  have hid := List.find?_some hget
  simp only [Bool.and_eq_true, decide_eq_true_eq] at hid
  refine ⟨List.mem_of_find?_eq_some hget, ?_⟩
  rw [hid.1, hid.2]
  exact hget

end Objects

section Dispatch

variable (cluster : Cluster) (lib : GoLib) {Rule : Type}

/-- The status writer follows the same branch. -/
theorem resolveParentGatewayFromRef_eq (ref : ParentReference) (routeNamespace : String) :
    resolveParentGatewayFromRef cluster ref routeNamespace =
      (listenersBranch routeNamespace ref).bind (·.gatewayOf cluster) := by
  have hgroup : (ref.group.any fun group => group ≠ "" ∧ group ≠ groupName) =
      !usesGatewayGroup ref := by
    rw [usesGatewayGroup]
    cases ref.group with
    | none => rfl
    | some group => by_cases h : group = "" <;> simp
  rw [resolveParentGatewayFromRef, hgroup]
  simp only [listenersBranch, parentObject]
  cases usesGatewayGroup ref with
  | false => rfl
  | true =>
    by_cases hgateway : ref.kind.getD kindGateway = kindGateway
    · simp [hgateway, ParentObject.gatewayOf]
    · by_cases hset : ref.kind.getD kindGateway = kindListenerSet
      · have hne : kindListenerSet ≠ kindGateway := by decide
        simp [hset, hne, ParentObject.gatewayOf]
      · simp [hgateway, hset]

end Dispatch

section Binding

variable (cluster : Cluster) (lib : GoLib) (controllerName : String) {ref : ParentReference}
  {info : RouteInfo}

/-- The binding check of one parent ends with a result for this Gateway or with an
error. -/
def Settles (outcome : Except String (Option ParentRefBinding)) (gateway : Gateway) : Prop :=
  (∃ result, outcome = .ok (some ⟨result, gateway.id⟩)) ∨ ∃ err, outcome = .error err

theorem settles_bind {α : Type} {gateway : Gateway} (first : Except String α)
    {next : α → Except String (Option ParentRefBinding)}
    (h : ∀ a, Settles (next a) gateway) : Settles (first >>= next) gateway := by
  cases first with
  | error err => exact Or.inr ⟨err, rfl⟩
  | ok a => exact h a

/-- What the binding check makes of the Gateway a reference leads to. -/
inductive Outcome (outcome : Except String (Option ParentRefBinding)) : Option Gateway → Prop
  | unnamed (h : outcome = .ok none) : Outcome outcome none
  | foreign {gateway : Gateway} (hmanaged : gatewayIsManaged cluster controllerName gateway = false)
      (h : outcome = .ok none) : Outcome outcome (some gateway)
  | managed {gateway : Gateway} (hmanaged : gatewayIsManaged cluster controllerName gateway = true)
      (h : Settles outcome gateway) : Outcome outcome (some gateway)

variable {cluster controllerName} in
theorem outcome_some {outcome : Except String (Option ParentRefBinding)} {gateway : Gateway}
    (hforeign : gatewayIsManaged cluster controllerName gateway = false → outcome = .ok none)
    (hmanaged : gatewayIsManaged cluster controllerName gateway = true → Settles outcome gateway) :
    Outcome cluster controllerName outcome (some gateway) := by
  cases h : gatewayIsManaged cluster controllerName gateway with
  | false => exact .foreign h (hforeign h)
  | true => exact .managed h (hmanaged h)

theorem outcome_gateway :
    Outcome cluster controllerName (resolveGatewayParentBinding cluster lib controllerName ref info)
      (cluster.getGateway (refNamespace ref info.ns) ref.name) := by
  unfold resolveGatewayParentBinding
  cases cluster.getGateway (refNamespace ref info.ns) ref.name with
  | none => exact .unnamed rfl
  | some gateway =>
    apply outcome_some
    · intro hforeign
      simp [hforeign]
    · intro hmanaged
      simp only [hmanaged]
      exact settles_bind _ fun result => Or.inl ⟨_, rfl⟩

theorem outcome_listenerSet :
    Outcome cluster controllerName
      (resolveListenerSetParentBinding cluster lib controllerName ref info)
      ((cluster.getListenerSet (refNamespace ref info.ns) ref.name).bind
        (listenerSetParentGateway cluster)) := by
  unfold resolveListenerSetParentBinding
  cases cluster.getListenerSet (refNamespace ref info.ns) ref.name with
  | none => exact .unnamed rfl
  | some listenerSet =>
    simp only [Option.bind_some]
    cases listenerSetParentGateway cluster listenerSet with
    | none => exact .unnamed rfl
    | some gateway =>
      apply outcome_some
      · intro hforeign
        simp [hforeign]
      · intro hmanaged
        simp only [hmanaged]
        refine settles_bind _ fun allowed => ?_
        split
        · exact Or.inl ⟨_, rfl⟩
        · exact settles_bind _ fun result => Or.inl ⟨_, rfl⟩

theorem outcome_resolveRouteParentBinding (ref : ParentReference) (info : RouteInfo) :
    Outcome cluster controllerName (resolveRouteParentBinding cluster lib controllerName ref info)
      (namedGateway cluster info.ns ref) := by
  simp only [resolveRouteParentBinding, namedGateway, parentObject]
  split
  · exact outcome_gateway cluster lib controllerName
  · split
    · exact outcome_listenerSet cluster lib controllerName
    · exact .unnamed rfl

/-- A result is for the managed Gateway the reference leads to. -/
theorem namedGateway_of_resolve {binding : ParentRefBinding}
    (h : resolveRouteParentBinding cluster lib controllerName ref info = .ok (some binding)) :
    ∃ gateway, namedGateway cluster info.ns ref = some gateway ∧
      gatewayIsManaged cluster controllerName gateway = true ∧ binding.gateway = gateway.id := by
  have houtcome := outcome_resolveRouteParentBinding cluster lib controllerName ref info
  rw [h] at houtcome
  generalize namedGateway cluster info.ns ref = named at houtcome
  cases houtcome with
  | unnamed hnone => cases hnone
  | foreign _ hnone => cases hnone
  | managed hmanaged hsettles =>
    refine ⟨_, rfl, hmanaged, ?_⟩
    rcases hsettles with ⟨result, hok⟩ | ⟨err, herr⟩
    · cases hok
      rfl
    · cases herr

end Binding

section Agreement

variable (cluster : Cluster) (lib : GoLib) (controllerName : String) {Rule : Type}
  (kind : RouteKind) (route : Route Rule) (ref : ParentReference)

/-- The binding check returned a result for the reference. -/
def Evaluates : Prop :=
  ∃ binding, resolveRouteParentBinding cluster lib controllerName ref (routeInfo kind route ref) =
    .ok (some binding)

/-- The binding check reports the reference managed, with the key of this
Gateway. -/
def ReportsManaged (gateway : Gateway) : Prop :=
  ∃ binding, resolveRouteParentBinding cluster lib controllerName ref (routeInfo kind route ref) =
      .ok (some binding) ∧
    cluster.getGateway binding.gateway.ns binding.gateway.name = some gateway

/-- The listener pass reads this Gateway or a ListenerSet of it. -/
def ReadsListenersOf (gateway : Gateway) : Prop :=
  ∃ object, listenersBranch route.id.ns ref = some object ∧
    object.gatewayOf cluster = some gateway

def ResolversAgree : Prop :=
  ∀ gateway, (ReportsManaged cluster lib controllerName kind route ref gateway ↔
      resolveParentGatewayFromRef cluster ref route.id.ns = some gateway) ∧
    (resolveParentGatewayFromRef cluster ref route.id.ns = some gateway ↔
      ReadsListenersOf cluster route ref gateway)

theorem resolveParentGatewayFromRef_iff (routeNamespace : String) (gateway : Gateway) :
    resolveParentGatewayFromRef cluster ref routeNamespace = some gateway ↔
      usesGatewayGroup ref = true ∧ namedGateway cluster routeNamespace ref = some gateway := by
  rw [resolveParentGatewayFromRef_eq, listenersBranch]
  cases usesGatewayGroup ref with
  | false => simp
  | true => simp [namedGateway]

theorem reportsManaged_iff (gateway : Gateway) :
    ReportsManaged cluster lib controllerName kind route ref gateway ↔
      Evaluates cluster lib controllerName kind route ref ∧
        namedGateway cluster route.id.ns ref = some gateway := by
  constructor
  · rintro ⟨binding, hresolve, hget⟩
    obtain ⟨named, hnamed, -, hid⟩ := namedGateway_of_resolve cluster lib controllerName hresolve
    refine ⟨⟨binding, hresolve⟩, ?_⟩
    rw [hid, (getGateway_id_of_namedGateway cluster hnamed).2] at hget
    cases hget
    exact hnamed
  · rintro ⟨⟨binding, hresolve⟩, hgateway⟩
    obtain ⟨named, hnamed, -, hid⟩ := namedGateway_of_resolve cluster lib controllerName hresolve
    have hsame : named = gateway := Option.some.inj (hnamed.symm.trans hgateway)
    subst hsame
    refine ⟨binding, hresolve, ?_⟩
    rw [hid]
    exact (getGateway_id_of_namedGateway cluster hnamed).2

/-- The resolvers agree on a reference exactly when its group and the evaluation
of its binding do not tell them apart, or it leads nowhere. -/
theorem resolversAgree_iff :
    ResolversAgree cluster lib controllerName kind route ref ↔
      ((namedGateway cluster route.id.ns ref).isSome = true →
        (usesGatewayGroup ref = true ↔ Evaluates cluster lib controllerName kind route ref)) := by
  constructor
  · intro h hsome
    obtain ⟨gateway, hnamed⟩ := Option.isSome_iff_exists.mp hsome
    have hagree := (h gateway).1
    rw [reportsManaged_iff, resolveParentGatewayFromRef_iff] at hagree
    simp only [hnamed, and_true] at hagree
    exact hagree.symm
  · intro h gateway
    refine ⟨?_, by rw [resolveParentGatewayFromRef_eq]; exact Option.bind_eq_some_iff⟩
    rw [reportsManaged_iff, resolveParentGatewayFromRef_iff]
    refine and_congr_left fun hnamed => ?_
    exact (h (by rw [hnamed]; rfl)).symm

/-- A parent that makes a route served is one the status writer reports, when the
reference is of the Gateway API group. -/
theorem selects_of_acceptedGatewayKey (hgroup : usesGatewayGroup ref = true) {key : String}
    (h : acceptedGatewayKey cluster lib controllerName kind route ref = some key) :
    parentRefSelectsManagedGateway cluster controllerName ref route.id.ns = true := by
  unfold acceptedGatewayKey at h
  split at h
  · rename_i binding hresolve
    obtain ⟨gateway, hnamed, hmanaged, -⟩ :=
      namedGateway_of_resolve cluster lib controllerName hresolve
    rw [parentRefSelectsManagedGateway,
      (resolveParentGatewayFromRef_iff cluster ref route.id.ns gateway).mpr ⟨hgroup, hnamed⟩]
    exact hmanaged
  · cases h

/-- With every Gateway managed, the resolvers agree on a reference of the Gateway
API group exactly when its binding can be evaluated; on a foreign one exactly when
it leads to no Gateway or its binding cannot be evaluated. -/
theorem resolvers_agree
    (hmanaged : ∀ gateway ∈ cluster.gateways,
      gatewayIsManaged cluster controllerName gateway = true) :
    (ResolversAgree cluster lib controllerName kind route ref ↔
      if usesGatewayGroup ref then
        ∀ err, resolveRouteParentBinding cluster lib controllerName ref
          (routeInfo kind route ref) ≠ .error err
      else namedGateway cluster route.id.ns ref = none ∨
        ∃ err, resolveRouteParentBinding cluster lib controllerName ref
          (routeInfo kind route ref) = .error err) ∧
    (usesGatewayGroup ref = true → ∀ key,
      acceptedGatewayKey cluster lib controllerName kind route ref = some key →
        parentRefSelectsManagedGateway cluster controllerName ref route.id.ns = true) := by
  refine ⟨?_, fun hgroup key => selects_of_acceptedGatewayKey cluster lib controllerName kind
    route ref hgroup⟩
  rw [resolversAgree_iff, Evaluates]
  have hmem : ∀ gateway, namedGateway cluster route.id.ns ref = some gateway →
      gateway ∈ cluster.gateways :=
    fun gateway hgateway => (getGateway_id_of_namedGateway cluster hgateway).1
  have houtcome := outcome_resolveRouteParentBinding cluster lib controllerName ref
    (routeInfo kind route ref)
  change Outcome _ _ _ (namedGateway cluster route.id.ns ref) at houtcome
  generalize hnamed : namedGateway cluster route.id.ns ref = named at houtcome hmem
  generalize resolveRouteParentBinding cluster lib controllerName ref (routeInfo kind route ref) =
    outcome at houtcome
  cases houtcome with
  | unnamed h => simp [h]
  | foreign hforeign h =>
    exact absurd (hmanaged _ (hmem _ rfl)) (Bool.eq_false_iff.mp hforeign)
  | managed _ h =>
    rcases h with ⟨result, rfl⟩ | ⟨err, rfl⟩
    · simp
    · simp

end Agreement

section Examples

/-- One managed Gateway, apps/edge, whose listener has a hostname. -/
def oneController : Cluster where
  gateways := [ownGateway]
  listenerSets := []
  gatewayClasses := [⟨"cloudflare", "example.com/tunnel"⟩]
  namespaces := []
  labelSelectorAsSelector _ := none

/-- A reference to something called edge in another API group. -/
def foreignRef : ParentReference := ⟨some "example.org", none, none, "edge", none, none⟩

theorem resolvers_agree_on_edge :
    ResolversAgree oneController GoLib.literal "example.com/tunnel" .HTTPRoute
      (routeTo [gatewayRef "edge"]) (gatewayRef "edge") := by
  refine (resolvers_agree oneController GoLib.literal "example.com/tunnel" .HTTPRoute
    (routeTo [gatewayRef "edge"]) (gatewayRef "edge") (by decide)).1.mpr ?_
  rw [if_pos (by decide)]
  intro err herr
  have hok : (resolveRouteParentBinding oneController GoLib.literal "example.com/tunnel"
      (gatewayRef "edge") (routeInfo .HTTPRoute (routeTo [gatewayRef "edge"])
        (gatewayRef "edge"))).toOption.isSome = true := by decide +kernel
  rw [herr] at hok
  cases hok

/-- A foreign reference with a colliding name binds its route to the Gateway: the
route is accepted and served for every host, without a status entry. -/
theorem foreign_group_is_served :
    usesGatewayGroup foreignRef = false ∧
    (bindRouteParents oneController GoLib.literal "example.com/tunnel" (fun _ _ => none) .HTTPRoute
      (routeTo [foreignRef])).2.1 = true ∧
    (bindRouteParents oneController GoLib.literal "example.com/tunnel" (fun _ _ => none) .HTTPRoute
      (routeTo [foreignRef])).1.acceptedGateways = ["apps/edge"] ∧
    servedHostnames oneController GoLib.literal .HTTPRoute (routeTo [foreignRef]) = [] ∧
    (resolveParentGatewayFromRef oneController foreignRef "apps").isNone = true ∧
    listenersBranch "apps" foreignRef = none ∧
    parentRefSelectsManagedGateway oneController "example.com/tunnel" foreignRef "apps" = false ∧
    ¬ ResolversAgree oneController GoLib.literal "example.com/tunnel" .HTTPRoute
      (routeTo [foreignRef]) foreignRef := by
  have hevaluates : (resolveRouteParentBinding oneController GoLib.literal "example.com/tunnel"
      foreignRef (routeInfo .HTTPRoute (routeTo [foreignRef]) foreignRef)).toOption.any
        Option.isSome = true := by decide +kernel
  have hnamed : (namedGateway oneController (routeTo [foreignRef]).id.ns foreignRef).isSome =
      true := by decide +kernel
  refine ⟨by decide, by decide +kernel, by decide +kernel, by decide +kernel, by decide +kernel,
    by decide +kernel, by decide +kernel, ?_⟩
  intro hagree
  have hiff := (resolversAgree_iff oneController GoLib.literal "example.com/tunnel" .HTTPRoute
    (routeTo [foreignRef]) foreignRef).mp hagree hnamed
  obtain ⟨outcome, houtcome, hsome⟩ := (Option.any_eq_true _ _).mp hevaluates
  obtain ⟨binding, rfl⟩ := Option.isSome_iff_exists.mp hsome
  have hgroup := hiff.mpr ⟨binding, (toOption_eq_some _ _).mp houtcome⟩
  exact absurd hgroup (by decide)

end Examples

end TunnelGateway.ParentResolvers
