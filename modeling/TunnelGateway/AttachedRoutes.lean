import TunnelGateway.EffectiveHostnames
import TunnelGateway.RouteCollection
import TunnelGateway.Tally

/-!
The number of routes attached to a listener. For a ListenerSet every route counts
once for each entry it binds. For a Gateway every reference counts, and the
reference is recognised by name and namespace alone, so the number is that of the
routes only where no route reaches a listener twice and no reference of another
kind bears the Gateway's name.
-/
namespace TunnelGateway.AttachedRoutes

open GoText GatewayApi RouteBinding ParentBinding EffectiveHostnames RouteCollection Tally

section Model

variable (cluster : Cluster) (lib : GoLib) {Rule HTTPRule GRPCRule : Type}

/-- Neither group nor kind of the reference is looked at. -/
def refMatchesGateway (ref : ParentReference) (gateway : Gateway) (routeNamespace : String) :
    Bool :=
  if ref.name ≠ gateway.id.name then false
  else refNamespace ref routeNamespace = gateway.id.ns

/-- The loop body over the references of one route. -/
def countParentRef (gateway : Gateway) (kind : RouteKind) (route : Route Rule)
    (counts : String → ℕ) (ref : ParentReference) : String → ℕ :=
  if !refMatchesGateway ref gateway route.id.ns then counts
  else
    match validateBinding cluster lib gateway (routeInfo kind route ref) with
    | .error _ => counts
    | .ok result =>
        if !result.accepted then counts else result.matchedListeners.foldl bump counts

/-- The routes of one kind. When they cannot be listed, none of them is counted. -/
def countRoutes (gateway : Gateway) (kind : RouteKind) (counts : String → ℕ)
    (listed : Except String (RouteList Rule)) : String → ℕ :=
  match listed with
  | .error _ => counts
  | .ok routes => routes.items.foldl (fun counts route =>
      route.parentRefs.foldl (countParentRef cluster lib gateway kind route) counts) counts

def countAttachedRoutes (gateway : Gateway) (httpRoutes : Except String (RouteList HTTPRule))
    (grpcRoutes : Except String (RouteList GRPCRule)) : String → ℕ :=
  let counts := countRoutes cluster lib gateway .HTTPRoute (fun _ => 0) httpRoutes
  countRoutes cluster lib gateway .GRPCRoute counts grpcRoutes

def parentRefSelectsListenerSet (ref : ParentReference) (routeNamespace : String)
    (listenerSet : ListenerSet) : Bool :=
  if !usesGatewayGroup ref then false
  else if ref.kind ≠ some kindListenerSet then false
  else if ref.name ≠ listenerSet.id.name then false
  else refNamespace ref routeNamespace = listenerSet.id.ns

/-- A section this route has counted for is not counted again. -/
def incrementListenerSetAttachedRoutes (listenerSet : ListenerSet) (kind : RouteKind)
    (counts : String → ℕ) (route : Route Rule) : String → ℕ :=
  (route.parentRefs.foldl (fun state ref =>
    if !parentRefSelectsListenerSet ref route.id.ns listenerSet then state
    else
      match validateBindingForListenerSet cluster lib listenerSet (routeInfo kind route ref) with
      | .error _ => state
      | .ok result =>
          if !result.accepted then state else result.matchedListeners.foldl bumpOnce state)
    ([], counts)).2

/-- Here a failed listing fails the whole count. -/
def countAttachedRoutesPerEntry (listenerSet : ListenerSet)
    (httpRoutes : Except String (RouteList HTTPRule))
    (grpcRoutes : Except String (RouteList GRPCRule)) : Except String (String → ℕ) := do
  let http ← httpRoutes.mapError ("failed to list httproutes: " ++ ·)
  let counts := http.items.foldl
    (incrementListenerSetAttachedRoutes cluster lib listenerSet .HTTPRoute) fun _ => 0
  let grpc ← grpcRoutes.mapError ("failed to list grpcroutes: " ++ ·)
  return grpc.items.foldl
    (incrementListenerSetAttachedRoutes cluster lib listenerSet .GRPCRoute) counts

end Model

section Sections

variable (cluster : Cluster) (lib : GoLib) {Rule : Type}

/-- What a binding check lists when it accepts. -/
def acceptedSections (outcome : Except String BindingResult) : List String :=
  match outcome with
  | .error _ => []
  | .ok result => if result.accepted then result.matchedListeners else []

theorem foldl_acceptedSections {σ : Type} (step : σ → String → σ) (state : σ)
    (outcome : Except String BindingResult) :
    (acceptedSections outcome).foldl step state =
      match outcome with
      | .error _ => state
      | .ok result =>
          if !result.accepted then state else result.matchedListeners.foldl step state := by
  cases outcome with
  | error err => rfl
  | ok result =>
    simp only [acceptedSections]
    cases result.accepted <;> rfl

theorem nodup_acceptedSections (gateway : Gateway) (info : RouteInfo) :
    (acceptedSections (validateBinding cluster lib gateway info)).Nodup := by
  cases h : validateBinding cluster lib gateway info with
  | error err => exact List.nodup_nil
  | ok result =>
    simp only [acceptedSections]
    split
    · exact nodup_matchedListeners cluster lib gateway.names_nodup h
    · exact List.nodup_nil

/-- The listeners a reference of the route is counted for. -/
def countedSections (gateway : Gateway) (kind : RouteKind) (route : Route Rule)
    (ref : ParentReference) : List String :=
  if refMatchesGateway ref gateway route.id.ns then
    acceptedSections (validateBinding cluster lib gateway (routeInfo kind route ref))
  else []

theorem countParentRef_eq (gateway : Gateway) (kind : RouteKind) (route : Route Rule)
    (counts : String → ℕ) (ref : ParentReference) :
    countParentRef cluster lib gateway kind route counts ref =
      (countedSections cluster lib gateway kind route ref).foldl bump counts := by
  rw [countParentRef, countedSections]
  cases refMatchesGateway ref gateway route.id.ns with
  | false => rfl
  | true => exact (foldl_acceptedSections bump counts _).symm

/-- The references of the route through which it is counted for the listener. -/
def countedRefs (gateway : Gateway) (kind : RouteKind) (listener : String) (route : Route Rule) :
    List ParentReference :=
  route.parentRefs.filter fun ref =>
    listener ∈ countedSections cluster lib gateway kind route ref

theorem count_countedSections (gateway : Gateway) (kind : RouteKind) (route : Route Rule)
    (ref : ParentReference) (listener : String) :
    (countedSections cluster lib gateway kind route ref).count listener =
      if listener ∈ countedSections cluster lib gateway kind route ref then 1 else 0 := by
  have hnodup : (countedSections cluster lib gateway kind route ref).Nodup := by
    rw [countedSections]
    split
    · exact nodup_acceptedSections cluster lib gateway (routeInfo kind route ref)
    · exact List.nodup_nil
  split
  · next hmem => exact List.count_eq_one_of_mem hnodup hmem
  · next hmem => exact List.count_eq_zero_of_not_mem hmem

/-- A route adds one for each of its references that reach the listener. -/
theorem foldl_countParentRef (gateway : Gateway) (kind : RouteKind) (route : Route Rule)
    (counts : String → ℕ) (listener : String) :
    route.parentRefs.foldl (countParentRef cluster lib gateway kind route) counts listener =
      counts listener + (countedRefs cluster lib gateway kind listener route).length := by
  have hshare : ∀ (counts : String → ℕ) (ref : ParentReference) (key : String),
      countParentRef cluster lib gateway kind route counts ref key =
        counts key + (countedSections cluster lib gateway kind route ref).count key := by
    intro counts ref key
    rw [countParentRef_eq, foldl_bump]
  rw [foldl_shares hshare, countedRefs, ← List.countP_eq_length_filter]
  congr 1
  apply (sum_eq_countP_iff _).mpr
  · intro ref _
    exact count_countedSections cluster lib gateway kind route ref listener
  · intro ref _
    exact (count_countedSections cluster lib gateway kind route ref listener).ge

theorem countRoutes_ok (gateway : Gateway) (kind : RouteKind) (counts : String → ℕ)
    (routes : RouteList Rule) (listener : String) :
    countRoutes cluster lib gateway kind counts (.ok routes) listener =
      counts listener + (routes.items.map fun route =>
        (countedRefs cluster lib gateway kind listener route).length).sum := by
  have hshare : ∀ (counts : String → ℕ) (route : Route Rule) (key : String),
      route.parentRefs.foldl (countParentRef cluster lib gateway kind route) counts key =
        counts key + (countedRefs cluster lib gateway kind key route).length :=
    fun counts route key => foldl_countParentRef cluster lib gateway kind route counts key
  exact foldl_shares hshare routes.items counts listener

end Sections

section Gateways

variable (cluster : Cluster) (lib : GoLib) {Rule HTTPRule GRPCRule : Type}

/-- The reference selects this Gateway: its group and kind are those of a Gateway. -/
def SelectsGateway (ref : ParentReference) (gateway : Gateway) (routeNamespace : String) : Prop :=
  usesGatewayGroup ref = true ∧ ref.kind.getD kindGateway = kindGateway ∧
    refMatchesGateway ref gateway routeNamespace = true

instance (ref : ParentReference) (gateway : Gateway) (routeNamespace : String) :
    Decidable (SelectsGateway ref gateway routeNamespace) := by
  unfold SelectsGateway
  infer_instance

/-- The route is attached to the listener of the Gateway. -/
def Attached (gateway : Gateway) (kind : RouteKind) (listener : String) (route : Route Rule) :
    Prop :=
  ∃ ref ∈ route.parentRefs, SelectsGateway ref gateway route.id.ns ∧
    listener ∈ acceptedSections (validateBinding cluster lib gateway (routeInfo kind route ref))

instance (gateway : Gateway) (kind : RouteKind) (listener : String) (route : Route Rule) :
    Decidable (Attached cluster lib gateway kind listener route) :=
  List.decidableBEx _ _

/-- The number of distinct routes attached to the listener. -/
def attachedRoutes (gateway : Gateway) (httpRoutes : RouteList HTTPRule)
    (grpcRoutes : RouteList GRPCRule) (listener : String) : ℕ :=
  httpRoutes.items.countP (fun route => Attached cluster lib gateway .HTTPRoute listener route) +
    grpcRoutes.items.countP fun route => Attached cluster lib gateway .GRPCRoute listener route

/-- At most one reference counts the route for the listener, and that one selects the
Gateway by group and kind. -/
def CountedOnce (gateway : Gateway) (kind : RouteKind) (listener : String)
    (route : Route Rule) : Prop :=
  (countedRefs cluster lib gateway kind listener route).length ≤ 1 ∧
    ∀ ref ∈ countedRefs cluster lib gateway kind listener route,
      SelectsGateway ref gateway route.id.ns

variable {gateway : Gateway} {route : Route Rule} {kind : RouteKind} {listener : String}

theorem mem_countedRefs {ref : ParentReference} :
    ref ∈ countedRefs cluster lib gateway kind listener route ↔
      ref ∈ route.parentRefs ∧ refMatchesGateway ref gateway route.id.ns = true ∧
        listener ∈
          acceptedSections (validateBinding cluster lib gateway (routeInfo kind route ref)) := by
  rw [countedRefs, List.mem_filter, countedSections]
  cases refMatchesGateway ref gateway route.id.ns <;> simp

theorem attached_iff :
    Attached cluster lib gateway kind listener route ↔
      ∃ ref ∈ countedRefs cluster lib gateway kind listener route,
        SelectsGateway ref gateway route.id.ns := by
  constructor
  · rintro ⟨ref, hmem, hselects, hbound⟩
    exact ⟨ref, (mem_countedRefs cluster lib).mpr ⟨hmem, hselects.2.2, hbound⟩, hselects⟩
  · rintro ⟨ref, hcounted, hselects⟩
    obtain ⟨hmem, -, hbound⟩ := (mem_countedRefs cluster lib).mp hcounted
    exact ⟨ref, hmem, hselects, hbound⟩

theorem attached_le_counted (gateway : Gateway) (kind : RouteKind) (listener : String)
    (route : Route Rule) :
    (if Attached cluster lib gateway kind listener route then 1 else 0) ≤
      (countedRefs cluster lib gateway kind listener route).length := by
  split
  · next hattached =>
    obtain ⟨ref, hcounted, -⟩ := (attached_iff cluster lib).mp hattached
    exact List.length_pos_of_mem hcounted
  · exact Nat.zero_le _

theorem countedOnce_iff (gateway : Gateway) (kind : RouteKind) (listener : String)
    (route : Route Rule) :
    ((countedRefs cluster lib gateway kind listener route).length =
      if Attached cluster lib gateway kind listener route then 1 else 0) ↔
    CountedOnce cluster lib gateway kind listener route := by
  rw [CountedOnce]
  have hattached : Attached cluster lib gateway kind listener route ↔
      ∃ ref ∈ countedRefs cluster lib gateway kind listener route,
        SelectsGateway ref gateway route.id.ns := attached_iff cluster lib
  cases hrefs : countedRefs cluster lib gateway kind listener route with
  | nil =>
    have hnone : ¬ Attached cluster lib gateway kind listener route := by
      simp [hattached, hrefs]
    simp [hnone]
  | cons ref rest =>
    cases rest with
    | nil =>
      by_cases h : SelectsGateway ref gateway route.id.ns <;> simp [hattached, hrefs]
    | cons other others =>
      simp only [List.length_cons]
      split <;> omega

/-- The count of a listener is the number of the routes attached to it exactly when
every route is counted once at most, and then through a reference that selects the
Gateway. -/
theorem attached_count_correct_iff (gateway : Gateway) (httpRoutes : RouteList HTTPRule)
    (grpcRoutes : RouteList GRPCRule) (listener : String) :
    countAttachedRoutes cluster lib gateway (.ok httpRoutes) (.ok grpcRoutes) listener =
        attachedRoutes cluster lib gateway httpRoutes grpcRoutes listener ↔
      (∀ route ∈ httpRoutes.items,
        CountedOnce cluster lib gateway .HTTPRoute listener route) ∧
      ∀ route ∈ grpcRoutes.items,
        CountedOnce cluster lib gateway .GRPCRoute listener route := by
  have hhttp := fun (route : Route HTTPRule) (_ : route ∈ httpRoutes.items) =>
    attached_le_counted cluster lib gateway .HTTPRoute listener route
  have hgrpc := fun (route : Route GRPCRule) (_ : route ∈ grpcRoutes.items) =>
    attached_le_counted cluster lib gateway .GRPCRoute listener route
  have hhttpLe := countP_le_sum hhttp
  have hgrpcLe := countP_le_sum hgrpc
  have hhttpEq := sum_eq_countP_iff hhttp
  have hgrpcEq := sum_eq_countP_iff hgrpc
  simp only [countedOnce_iff] at hhttpEq hgrpcEq
  rw [← hhttpEq, ← hgrpcEq, countAttachedRoutes, countRoutes_ok, countRoutes_ok, attachedRoutes]
  -- Neither kind is counted short, so the two sums are right only together.
  omega

end Gateways

section Examples

def edge : Gateway :=
  .withListener (.of "apps" "edge") "cloudflare" ⟨"web", none, 80, .http, none⟩ none

def appsCluster : Cluster := ⟨[edge], [], [], [⟨"apps", []⟩], fun _ => none⟩

def edgeRef (kind sectionName : Option String) : ParentReference :=
  ⟨none, kind, none, "edge", sectionName, none⟩

def oneRoute (refs : List ParentReference) : RouteList Unit :=
  ⟨[⟨.of "apps" "shop", 1, refs, [], []⟩], List.nodup_singleton _⟩

def noRoute : RouteList Unit := ⟨[], List.nodup_nil⟩

/-- A route with two references to the Gateway, one of them by section, counts twice.
A route whose only parent is a ListenerSet with the Gateway's name counts as well. -/
theorem references_counted_as_routes :
    countAttachedRoutes appsCluster GoLib.literal edge
        (.ok (oneRoute [edgeRef none none, edgeRef none (some "web")])) (.ok noRoute) "web" = 2 ∧
    attachedRoutes appsCluster GoLib.literal edge
        (oneRoute [edgeRef none none, edgeRef none (some "web")]) noRoute "web" = 1 ∧
    countAttachedRoutes appsCluster GoLib.literal edge
        (.ok (oneRoute [edgeRef (some "ListenerSet") none])) (.ok noRoute) "web" = 1 ∧
    attachedRoutes appsCluster GoLib.literal edge
        (oneRoute [edgeRef (some "ListenerSet") none]) noRoute "web" = 0 := by
  refine ⟨?_, ?_, ?_, ?_⟩
  · decide +kernel
  · decide +kernel
  · decide +kernel
  · decide +kernel

end Examples

section ListenerSets

variable (cluster : Cluster) (lib : GoLib) {Rule HTTPRule GRPCRule : Type}

/-- The entries a reference of the route is counted for. -/
def countedEntries (listenerSet : ListenerSet) (kind : RouteKind) (route : Route Rule)
    (ref : ParentReference) : List String :=
  if parentRefSelectsListenerSet ref route.id.ns listenerSet then
    acceptedSections (validateBindingForListenerSet cluster lib listenerSet
      (routeInfo kind route ref))
  else []

/-- The route is attached to the entry of the ListenerSet. -/
def AttachedToEntry (listenerSet : ListenerSet) (kind : RouteKind) (entry : String)
    (route : Route Rule) : Prop :=
  ∃ ref ∈ route.parentRefs, entry ∈ countedEntries cluster lib listenerSet kind route ref

instance (listenerSet : ListenerSet) (kind : RouteKind) (entry : String) (route : Route Rule) :
    Decidable (AttachedToEntry cluster lib listenerSet kind entry route) :=
  List.decidableBEx _ _

/-- A route adds one to each entry it is attached to, whatever the number of its
references. -/
theorem incrementListenerSetAttachedRoutes_apply (listenerSet : ListenerSet) (kind : RouteKind)
    (counts : String → ℕ) (route : Route Rule) (entry : String) :
    incrementListenerSetAttachedRoutes cluster lib listenerSet kind counts route entry =
      counts entry +
        if AttachedToEntry cluster lib listenerSet kind entry route then 1 else 0 := by
  have hstep : incrementListenerSetAttachedRoutes cluster lib listenerSet kind counts route =
      ((route.parentRefs.flatMap (countedEntries cluster lib listenerSet kind route)).foldl
        bumpOnce ([], counts)).2 := by
    rw [incrementListenerSetAttachedRoutes, List.foldl_flatMap]
    congr 1
    apply List.foldl_ext
    intro state ref _
    rw [countedEntries]
    cases parentRefSelectsListenerSet ref route.id.ns listenerSet with
    | false => rfl
    | true => exact (foldl_acceptedSections bumpOnce state _).symm
  rw [hstep, foldl_bumpOnce]
  simp [AttachedToEntry]

theorem foldl_increment (listenerSet : ListenerSet) (kind : RouteKind) (counts : String → ℕ)
    (routes : List (Route Rule)) (entry : String) :
    routes.foldl (incrementListenerSetAttachedRoutes cluster lib listenerSet kind) counts entry =
      counts entry +
        routes.countP fun route => AttachedToEntry cluster lib listenerSet kind entry route := by
  rw [foldl_shares (incrementListenerSetAttachedRoutes_apply cluster lib listenerSet kind)]
  congr 1
  exact (sum_eq_countP_iff fun _ _ => le_rfl).mpr fun _ _ => rfl

/-- The count of an entry is the number of the routes attached to it. -/
theorem countAttachedRoutesPerEntry_ok (listenerSet : ListenerSet)
    (httpRoutes : RouteList HTTPRule) (grpcRoutes : RouteList GRPCRule) :
    countAttachedRoutesPerEntry cluster lib listenerSet (.ok httpRoutes) (.ok grpcRoutes) =
      .ok fun entry =>
        (httpRoutes.items.countP fun route =>
          AttachedToEntry cluster lib listenerSet .HTTPRoute entry route) +
        grpcRoutes.items.countP fun route =>
          AttachedToEntry cluster lib listenerSet .GRPCRoute entry route := by
  change Except.ok _ = Except.ok _
  congr 1
  funext entry
  rw [foldl_increment, foldl_increment, Nat.zero_add]

end ListenerSets

end TunnelGateway.AttachedRoutes
