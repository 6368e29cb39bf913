import TunnelGateway.OrderIndependence

/-!
What the endpoints of a Service make of its backends. The pass that expands
headless Services and the pass that marks Services without endpoints read the
slices in different ways; together they come to one case split, as long as no
endpoint is dialed at the host of another Service. Both take an endpoint without
a Ready condition for one that is not ready.
-/
namespace TunnelGateway.ReadyEndpoints

open GoText GatewayApi RouteSpec ProxyConfig ClusterObjects ServiceTarget RouteConversion
open BackendPasses FailedRefs BuildConfig FanOut BackendFate RouteOrigin RulePasses
open EndpointProbes OrderIndependence

section Ports

variable (svc : Service) (key : ServiceKey) (slice : EndpointSlice)

/-- The Service port that the reference selects. -/
def selectedPort : Option ServicePort := svc.ports.find? (·.port = key.port)

def selectedName : String := (selectedPort svc key).elim "" ServicePort.name

/-- The slice has a port with the name of the selected one, or a single port, or
the Service port has a numeric target. -/
def PortResolves : Prop :=
  (∃ p ∈ slice.ports, p.port.isSome ∧ p.name.getD "" = selectedName svc key) ∨
    (∃ p, slice.ports = [p] ∧ p.port.isSome) ∨
    ∃ svcPort ∈ selectedPort svc key, ∃ number > 0, svcPort.targetPort = .number number

/-- The port at which the endpoints of the slice are dialed. -/
def endpointPort : Option ℤ :=
  match endpointSlicePort slice (serviceTargetPort svc key.port).1 with
  | some port => some port
  | none =>
      if (serviceTargetPort svc key.port).2 > 0 then some (serviceTargetPort svc key.port).2
      else none

theorem serviceTargetPort_name : (serviceTargetPort svc key.port).1 = selectedName svc key := by
  rw [serviceTargetPort, selectedName, selectedPort]
  cases svc.ports.find? (·.port = key.port) with
  | none => rfl
  | some svcPort =>
    simp only
    split <;> rfl

theorem serviceTargetPort_pos_iff :
    (serviceTargetPort svc key.port).2 > 0 ↔
      ∃ svcPort ∈ selectedPort svc key, ∃ number > 0, svcPort.targetPort = .number number := by
  rw [serviceTargetPort, selectedPort]
  cases svc.ports.find? (·.port = key.port) with
  | none => simp
  | some svcPort =>
    cases htarget : svcPort.targetPort with
    | number value =>
      simp only [Option.mem_def, Option.some.injEq, exists_eq_left', htarget]
      constructor
      · intro hpos
        split at hpos
        · rename_i hvalue
          exact ⟨value, hvalue, rfl⟩
        · exact absurd hpos (lt_irrefl 0)
      · rintro ⟨number, hnumber, hsame⟩
        cases hsame
        rwa [if_pos hnumber]
    | named text => simp [htarget]

/-- A port of the slice carries the name, where no name is the empty one. -/
theorem named_iff (p : EndpointPort) (portName : String) :
    (p.port.isSome && (p.name = some portName || (p.name.isNone && portName = ""))) = true ↔
      p.port.isSome ∧ p.name.getD "" = portName := by
  cases p.name <;> simp

theorem endpointSlicePort_isSome_iff (portName : String) :
    (endpointSlicePort slice portName).isSome ↔
      (∃ p ∈ slice.ports, p.port.isSome ∧ p.name.getD "" = portName) ∨
        ∃ p, slice.ports = [p] ∧ p.port.isSome := by
  rw [endpointSlicePort]
  cases hfind : slice.ports.find? fun p =>
      p.port.isSome && (p.name = some portName || (p.name.isNone && portName = "")) with
  | some p =>
    have hfound := List.find?_some hfind
    have hnamed := (named_iff p portName).mp hfound
    exact iff_of_true hnamed.1 (.inl ⟨p, List.mem_of_find?_eq_some hfind, hnamed⟩)
  | none =>
    have hnone : ¬∃ p ∈ slice.ports, p.port.isSome ∧ p.name.getD "" = portName := by
      rintro ⟨p, hp, hnamed⟩
      exact List.find?_eq_none.mp hfind p hp ((named_iff p portName).mpr hnamed)
    rw [or_iff_right hnone]
    dsimp only
    split
    · rename_i p hports
      simp [hports]
    · rename_i hmany
      refine iff_of_false Bool.false_ne_true ?_
      rintro ⟨p, hports, -⟩
      exact hmany p hports

theorem endpointPort_isSome_iff :
    (endpointPort svc key slice).isSome ↔ PortResolves svc key slice := by
  have hslice := endpointSlicePort_isSome_iff slice (serviceTargetPort svc key.port).1
  rw [PortResolves, ← or_assoc, ← serviceTargetPort_name, ← hslice, ← serviceTargetPort_pos_iff,
    endpointPort]
  cases endpointSlicePort slice (serviceTargetPort svc key.port).1 with
  | some port => simp
  | none =>
    dsimp only
    split
    · rename_i hpos
      exact iff_of_true rfl (.inr hpos)
    · rename_i hzero
      simp [hzero]

end Ports

section Endpoints

variable (objects : Objects) (svc : Service) (key : ServiceKey)

/-- A slice of the Service has a ready endpoint. -/
def HasReady : Prop :=
  ∃ slice ∈ objects.endpointSlicesOf key.ns key.name, ∃ e ∈ slice.endpoints, e.ready = some true

/-- A ready endpoint lies in a slice whose port resolves. -/
def HasResolved : Prop :=
  ∃ slice ∈ objects.endpointSlicesOf key.ns key.name,
    PortResolves svc key slice ∧ ∃ e ∈ slice.endpoints, e.ready = some true

/-- The ready addresses of a slice, none where its port does not resolve. -/
def sliceAddresses (slice : EndpointSlice) : List ResolvedEndpoint :=
  match endpointPort svc key slice with
  | none => []
  | some port =>
      (slice.endpoints.filter isReady).flatMap fun e => e.addresses.map (⟨·, port⟩)

/-- The ready addresses of the Service whose port resolves. -/
def readyAddresses : List ResolvedEndpoint :=
  (objects.endpointSlicesOf key.ns key.name).flatMap (sliceAddresses svc key)

/-- The API server admits no endpoint without an address. -/
def HaveAddresses : Prop :=
  ∀ slice ∈ objects.endpointSlices, ∀ e ∈ slice.endpoints, e.addresses ≠ []

theorem serviceHasReadyEndpoint_iff :
    serviceHasReadyEndpoint objects key.ns key.name = true ↔ HasReady objects key := by
  simp [serviceHasReadyEndpoint, HasReady, isReady]

theorem resolveHeadlessEndpoints_eq :
    resolveHeadlessEndpoints objects svc key =
      ((readyAddresses objects svc key).insertionSort endpointPrecedes,
        serviceHasReadyEndpoint objects key.ns key.name) := by
  have hready : ∀ slice : EndpointSlice,
      (!(slice.endpoints.filter isReady).isEmpty) = slice.endpoints.any isReady := by
    intro slice
    rw [Bool.eq_iff_iff, Bool.not_eq_true', List.isEmpty_eq_false_iff, ne_eq]
    simp
  rw [resolveHeadlessEndpoints, serviceHasReadyEndpoint]
  simp only [List.flatMap_map]
  refine Prod.ext rfl ?_
  simp [Function.comp_def, sliceEndpoints, hready]

variable {objects svc key}

theorem readyAddresses_ne_nil_iff (haddr : HaveAddresses objects) :
    readyAddresses objects svc key ≠ [] ↔ HasResolved objects svc key := by
  simp only [ne_eq, readyAddresses, List.flatMap_eq_nil_iff, not_forall, exists_prop]
  refine exists_congr fun slice => and_congr_right fun hslice => ?_
  rw [← endpointPort_isSome_iff, sliceAddresses]
  cases endpointPort svc key slice with
  | none => simp
  | some port =>
    have hne := haddr slice (List.mem_of_mem_filter hslice)
    simp only [List.flatMap_eq_nil_iff, List.mem_filter, List.map_eq_nil_iff, isReady,
      decide_eq_true_eq, not_forall, Option.isSome_some, true_and]
    exact exists_congr fun e => ⟨fun h => h.1, fun h => ⟨h, hne e h.1⟩⟩

theorem hasReady_of_readyAddresses (h : readyAddresses objects svc key ≠ []) :
    HasReady objects key := by
  obtain ⟨ep, hep⟩ := List.exists_mem_of_ne_nil _ h
  obtain ⟨slice, hslice, hep⟩ := List.mem_flatMap.mp hep
  rw [sliceAddresses] at hep
  split at hep
  · cases hep
  · obtain ⟨e, he, -⟩ := List.mem_flatMap.mp hep
    obtain ⟨he, hready⟩ := List.mem_filter.mp he
    exact ⟨slice, hslice, e, he, of_decide_eq_true hready⟩

/-- No ready endpoint that could be dialed: the Service has none at all, or it is
headless and no port resolves. -/
def Unready (objects : Objects) (key : ServiceKey) : Prop :=
  ∃ svc, objects.getService key.ns key.name = some svc ∧ isExternalName svc = false ∧
    (¬HasReady objects key ∨ svc.clusterIP = clusterIPNone ∧ ¬HasResolved objects svc key)

/-- A headless Service with an address to dial. -/
def Dialable (objects : Objects) (svc : Service) (key : ServiceKey) : Prop :=
  isExternalName svc = false ∧ svc.clusterIP = clusterIPNone ∧ readyAddresses objects svc key ≠ []

end Endpoints

section Outcomes

variable (s : ProxySyncer) (key : ServiceKey)

/-- Marked exactly where nothing can be dialed, one backend for each address of a
headless Service, and otherwise left alone. -/
structure Outcome (b : Backend) (after : List Backend) : Prop where
  marked : after = [{ b with unavailableStatus := statusServiceUnavailable }] ↔
    Unready s.objects key
  expanded : ∀ svc, s.objects.getService key.ns key.name = some svc →
    Dialable s.objects svc key → ∃ endpoints,
      endpoints.Perm (readyAddresses s.objects svc key) ∧ after = endpointBackends s.lib endpoints b
  kept : ¬Unready s.objects key →
    (∀ svc, s.objects.getService key.ns key.name = some svc → ¬Dialable s.objects svc key) →
      after = [b]

variable {s key} {b : Backend}

/-- The backend is dialed at the host of the Service and not marked so far. -/
structure Addresses (s : ProxySyncer) (key : ServiceKey) (b : Backend) : Prop where
  unmarked : b.unavailableStatus = 0
  positive : 0 < b.weight
  host : hostOf s.lib b.url = some (key.host s.lib s.clusterDomain)
  parses : key.host s.lib s.clusterDomain ≠ ""

theorem Addresses.core (h : Addresses s key b) : Addresses s key (core b) where
  unmarked := h.unmarked
  positive := Int.sign_pos_iff.mpr h.positive
  host := h.host
  parses := h.parses

theorem markFate_of_addresses (h : Addresses s key b) :
    markFate s.lib (key.host s.lib s.clusterDomain) statusServiceUnavailable b =
      [{ b with unavailableStatus := statusServiceUnavailable }] := by
  have hmatch : unmarkedAt s.lib (key.host s.lib s.clusterDomain) b = true := by
    simp [unmarkedAt, h.unmarked, h.host]
  rw [markFate, if_neg h.parses, markBackend, if_pos hmatch]

variable {endpoints : List ResolvedEndpoint} {svc : Service}

theorem expandFate_of_addresses (h : Addresses s key b) (hne : endpoints ≠ []) :
    expandFate s.lib (key.host s.lib s.clusterDomain) endpoints b =
      endpointBackends s.lib endpoints b := by
  have hmatch : backendMatchesHeadless s.lib (key.host s.lib s.clusterDomain) b = true := by
    simp [backendMatchesHeadless, unmarkedAt, h.unmarked, h.host, h.positive]
  have hguard : ¬(endpoints.isEmpty || key.host s.lib s.clusterDomain = "") = true := by
    simp [hne, h.parses]
  rw [expandFate, if_neg hguard, if_pos hmatch]

/-- Where the Service has a ready endpoint the second pass changes nothing. -/
theorem probeFate_of_hasReady (h : HasReady s.objects key) :
    probeFate s key b = headlessFate s.objects s.lib s.clusterDomain key b := by
  have hzero : zeroEndpointFate s.objects s.lib s.clusterDomain key = Fate.unchanged := by
    rw [zeroEndpointFate, (serviceHasReadyEndpoint_iff s.objects key).mpr h]
    cases s.objects.getService key.ns key.name with
    | none => rfl
    | some svc => exact ite_self _
  rw [probeFate, hzero]
  exact List.flatMap_singleton' _

/-- Without a ready endpoint the first pass changes nothing. -/
theorem headlessFate_of_not_hasReady (h : ¬HasReady s.objects key) :
    headlessFate s.objects s.lib s.clusterDomain key = Fate.unchanged := by
  have hnone : serviceHasReadyEndpoint s.objects key.ns key.name = false :=
    Bool.eq_false_iff.mpr (mt (serviceHasReadyEndpoint_iff s.objects key).mp h)
  rw [headlessFate]
  cases s.objects.getService key.ns key.name with
  | none => rfl
  | some svc =>
    have hnil : readyAddresses s.objects svc key = [] := by
      by_contra hne
      exact h (hasReady_of_readyAddresses hne)
    simp [resolveHeadlessEndpoints_eq, hnil, hnone]

theorem probeFate_of_not_hasReady (h : ¬HasReady s.objects key) :
    probeFate s key b = zeroEndpointFate s.objects s.lib s.clusterDomain key b := by
  rw [probeFate, headlessFate_of_not_hasReady h]
  exact List.flatMap_singleton _ b

theorem not_unready_of_dialable (haddr : HaveAddresses s.objects)
    (hsvc : s.objects.getService key.ns key.name = some svc) (h : Dialable s.objects svc key) :
    ¬Unready s.objects key := by
  obtain ⟨-, -, hne⟩ := h
  have hresolved := (readyAddresses_ne_nil_iff haddr).mp hne
  rintro ⟨svc', hsvc', -, hunready⟩
  cases hsvc.symm.trans hsvc'
  rcases hunready with hnone | ⟨-, hnone⟩
  · obtain ⟨slice, hslice, -, hready⟩ := hresolved
    exact hnone ⟨slice, hslice, hready⟩
  · exact hnone hresolved

theorem outcome_of_unready (haddr : HaveAddresses s.objects) (h : Unready s.objects key) :
    Outcome s key b [{ b with unavailableStatus := statusServiceUnavailable }] where
  marked := iff_of_true rfl h
  expanded _ hsvc hdial := absurd h (not_unready_of_dialable haddr hsvc hdial)
  kept hnot _ := absurd h hnot

theorem ne_marked_of_status_eq (hb : Addresses s key b) {after : List Backend}
    (h : ∀ d ∈ after, d.unavailableStatus = b.unavailableStatus) :
    after ≠ [{ b with unavailableStatus := statusServiceUnavailable }] := by
  rintro rfl
  have hstatus : statusServiceUnavailable = b.unavailableStatus := h _ (List.mem_singleton_self _)
  rw [hb.unmarked] at hstatus
  exact absurd hstatus (by decide)

theorem outcome_of_dialable (haddr : HaveAddresses s.objects) (hb : Addresses s key b)
    (hsvc : s.objects.getService key.ns key.name = some svc) (h : Dialable s.objects svc key)
    (hperm : endpoints.Perm (readyAddresses s.objects svc key)) :
    Outcome s key b (endpointBackends s.lib endpoints b) where
  marked := by
    refine iff_of_false (ne_marked_of_status_eq hb ?_) (not_unready_of_dialable haddr hsvc h)
    intro d hd
    obtain ⟨ep, -, rfl⟩ := List.mem_map.mp hd
    rfl
  expanded svc' hsvc' _ := by
    cases hsvc.symm.trans hsvc'
    exact ⟨endpoints, hperm, rfl⟩
  kept _ hnone := absurd h (hnone svc hsvc)

theorem outcome_of_neither (hb : Addresses s key b) (hunready : ¬Unready s.objects key)
    (hdial : ∀ svc, s.objects.getService key.ns key.name = some svc →
      ¬Dialable s.objects svc key) : Outcome s key b [b] where
  marked := by
    refine iff_of_false (ne_marked_of_status_eq hb ?_) hunready
    intro d hd
    rw [List.mem_singleton.mp hd]
  expanded svc hsvc h := absurd h (hdial svc hsvc)
  kept _ _ := rfl

theorem find?_eq_of_oneService {refs : List ServiceKey} (hone : OneService s refs)
    (hkey : key ∈ refs) :
    refs.find? (·.host s.lib s.clusterDomain = key.host s.lib s.clusterDomain) = some key := by
  cases hfind : refs.find? (·.host s.lib s.clusterDomain = key.host s.lib s.clusterDomain) with
  | none => exact absurd (decide_eq_true rfl) (List.find?_eq_none.mp hfind key hkey)
  | some k =>
    have hfound := List.find?_some hfind
    have hhost := of_decide_eq_true hfound
    rw [hone k (List.mem_of_find?_eq_some hfind) key hkey hhost]

/-- The Service is no headless one: missing, an ExternalName, or with an address of
its own. -/
def Plain (objects : Objects) (key : ServiceKey) : Prop :=
  ∀ svc, objects.getService key.ns key.name = some svc →
    isExternalName svc = true ∨ svc.clusterIP ≠ clusterIPNone

theorem headlessFate_of_plain (h : Plain s.objects key) :
    headlessFate s.objects s.lib s.clusterDomain key = Fate.unchanged := by
  rw [headlessFate]
  cases hsvc : s.objects.getService key.ns key.name with
  | none => rfl
  | some svc =>
    refine if_pos ?_
    simpa using h svc hsvc

theorem outcome_of_plain (hb : Addresses s key b) (hready : HasReady s.objects key)
    (h : Plain s.objects key) : Outcome s key b [b] := by
  have hheadless : ∀ svc, s.objects.getService key.ns key.name = some svc →
      isExternalName svc = false → svc.clusterIP ≠ clusterIPNone := by
    intro svc hsvc hinternal
    exact (h svc hsvc).resolve_left (Bool.eq_false_iff.mp hinternal)
  refine outcome_of_neither hb ?_ ?_
  · rintro ⟨svc, hsvc, hinternal, hnone | ⟨hnoIP, -⟩⟩
    · exact hnone hready
    · exact hheadless svc hsvc hinternal hnoIP
  · intro svc hsvc hdial
    exact hheadless svc hsvc hdial.1 hdial.2.1

/-- A headless Service is expanded into its addresses, or marked if it has none. -/
theorem headlessFate_of_headless (hb : Addresses s key b) (hready : HasReady s.objects key)
    (hsvc : s.objects.getService key.ns key.name = some svc)
    (hinternal : isExternalName svc = false) (hheadless : svc.clusterIP = clusterIPNone) :
    headlessFate s.objects s.lib s.clusterDomain key b =
      if readyAddresses s.objects svc key = [] then
        [{ b with unavailableStatus := statusServiceUnavailable }]
      else endpointBackends s.lib
        ((readyAddresses s.objects svc key).insertionSort endpointPrecedes) b := by
  have hserves := (serviceHasReadyEndpoint_iff s.objects key).mpr hready
  have hguard : ¬(isExternalName svc || decide (svc.clusterIP ≠ clusterIPNone)) = true := by
    simp [hinternal, hheadless]
  rw [headlessFate, hsvc]
  dsimp only
  rw [if_neg hguard, resolveHeadlessEndpoints_eq, hserves]
  by_cases hnil : readyAddresses s.objects svc key = []
  · rw [hnil]
    exact markFate_of_addresses hb
  · have hne : (readyAddresses s.objects svc key).insertionSort endpointPrecedes ≠ [] := by
      intro hempty
      exact hnil (List.nil_perm.mp (hempty ▸ List.perm_insertionSort endpointPrecedes _))
    have hsome : (!((readyAddresses s.objects svc key).insertionSort
        endpointPrecedes).isEmpty) = true := by
      simpa using hne
    rw [if_neg hnil, if_pos hsome, expandFate_of_addresses hb hne]

theorem outcome_probeFate_of_hasReady (haddr : HaveAddresses s.objects) (hb : Addresses s key b)
    (hready : HasReady s.objects key) : Outcome s key b (probeFate s key b) := by
  rw [probeFate_of_hasReady hready]
  by_cases hplain : Plain s.objects key
  · rw [headlessFate_of_plain hplain]
    exact outcome_of_plain hb hready hplain
  · obtain ⟨svc, hsvc, hnot⟩ : ∃ svc, s.objects.getService key.ns key.name = some svc ∧
        ¬(isExternalName svc = true ∨ svc.clusterIP ≠ clusterIPNone) := by
      simpa [Plain] using hplain
    obtain ⟨hinternal, hheadless⟩ := not_or.mp hnot
    rw [Bool.not_eq_true] at hinternal
    rw [not_not] at hheadless
    rw [headlessFate_of_headless hb hready hsvc hinternal hheadless]
    split
    · rename_i hnil
      have hunresolved : ¬HasResolved s.objects svc key :=
        fun h => (readyAddresses_ne_nil_iff haddr).mpr h hnil
      exact outcome_of_unready haddr ⟨svc, hsvc, hinternal, .inr ⟨hheadless, hunresolved⟩⟩
    · rename_i hsome
      exact outcome_of_dialable haddr hb hsvc ⟨hinternal, hheadless, hsome⟩
        (List.perm_insertionSort endpointPrecedes _)

theorem outcome_probeFate_of_not_hasReady (haddr : HaveAddresses s.objects)
    (hb : Addresses s key b) (hready : ¬HasReady s.objects key) :
    Outcome s key b (probeFate s key b) := by
  have hserves : serviceHasReadyEndpoint s.objects key.ns key.name = false :=
    Bool.eq_false_iff.mpr (mt (serviceHasReadyEndpoint_iff s.objects key).mp hready)
  have hdial : ∀ svc, ¬Dialable s.objects svc key :=
    fun svc h => hready (hasReady_of_readyAddresses h.2.2)
  rw [probeFate_of_not_hasReady hready, zeroEndpointFate]
  cases hsvc : s.objects.getService key.ns key.name with
  | none =>
    refine outcome_of_neither hb ?_ fun svc _ => hdial svc
    rintro ⟨svc, hsome, -⟩
    cases hsvc.symm.trans hsome
  | some svc =>
    cases hexternal : isExternalName svc with
    | true =>
      simp only [hexternal]
      refine outcome_of_neither hb ?_ fun svc _ => hdial svc
      rintro ⟨svc', hsome, hinternal, -⟩
      cases hsvc.symm.trans hsome
      exact absurd hexternal (Bool.eq_false_iff.mp hinternal)
    | false =>
      simp only [hexternal, hserves, Bool.false_eq_true, if_false]
      rw [markFate_of_addresses hb]
      exact outcome_of_unready haddr ⟨svc, hsvc, hexternal, .inl hready⟩

end Outcomes

section Passes

variable {s : ProxySyncer} {routes : List HTTPRoute} {grpcRoutes : List GRPCRoute}

end Passes

section Fixtures

def serviceKey (name : String) : ServiceKey := ⟨"shop", name, 80⟩

def serviceBackend (name : String) : Backend :=
  { url := "http://" ++ name ++ ".shop.svc.local:80", weight := 1 }

def serviceRule : ConvertedRule :=
  ⟨⟨.HTTPRoute, "shop", "a", 0, 0⟩, { backends := [serviceBackend "a"] }⟩

/-- Both passes on rules whose routes refer to `a` and to `b`. -/
def probedRules (s : ProxySyncer) (rules : List ConvertedRule) : List ConvertedRule :=
  markZeroEndpointBackends s.objects s.lib s.clusterDomain
    (s.preparedHTTPRoutes [routeTo "a" 1, routeTo "b" 2]) (s.preparedGRPCRoutes [])
    (expandHeadlessBackends s.objects s.lib s.clusterDomain
      (s.preparedHTTPRoutes [routeTo "a" 1, routeTo "b" 2]) (s.preparedGRPCRoutes []) rules)

/-- Only `a` has an endpoint, and it is the address of `b`. -/
def borrowedSyncer : ProxySyncer :=
  { twinSyncer "b.shop.svc.local" 80 with
    objects :=
      { (twinSyncer "b.shop.svc.local" 80).objects with
        endpointSlices := [readySlice "a" "b.shop.svc.local" 80] } }

def urlsAndStatuses (rules : List ConvertedRule) : List (List (String × ℤ)) :=
  rules.map fun c => c.rule.backends.map fun b => (b.url, b.unavailableStatus)

end Fixtures

end TunnelGateway.ReadyEndpoints
