import TunnelGateway.ReadyEndpoints

/-!
Endpoints that leave their Ready condition out. The API reads such an endpoint as
ready, the build reads it as not ready, so that the two agree only on Services
whose ready endpoints say so.
-/
namespace TunnelGateway.UnsetReadiness

open GoText GatewayApi RouteSpec ProxyConfig ClusterObjects ServiceTarget RouteConversion
open BackendPasses FailedRefs BuildConfig FanOut BackendFate RouteOrigin RulePasses
open EndpointProbes DedupBy TrafficShares OrderIndependence ReadyEndpoints

section Objects

/-- The condition may be left out where it is true. -/
structure LeavesOut (e e' : Endpoint) : Prop where
  addresses : e'.addresses = e.addresses
  ready : e'.ready = e.ready ∨ e.ready = some true ∧ e'.ready = none

structure SliceLeavesOut (slice slice' : EndpointSlice) : Prop where
  ns : slice'.ns = slice.ns
  serviceName : slice'.serviceName = slice.serviceName
  ports : slice'.ports = slice.ports
  endpoints : List.Forall₂ LeavesOut slice.endpoints slice'.endpoints

def withSlices (objects : Objects) (slices : List EndpointSlice) : Objects :=
  { objects with endpointSlices := slices }

variable (objects : Objects) (slices : List EndpointSlice) (key : ServiceKey)

/-- The ready endpoints that count say so: one of the Service, where it has one,
and of a headless Service all that can be dialed. -/
def StatesReadiness : Prop :=
  ∀ svc, objects.getService key.ns key.name = some svc → isExternalName svc = false →
    (HasReady objects key → HasReady (withSlices objects slices) key) ∧
      (svc.clusterIP = clusterIPNone → ∀ pair ∈ objects.endpointSlices.zip slices,
        pair.1.ns = key.ns → pair.1.serviceName = key.name → PortResolves svc key pair.1 →
          pair.2.endpoints = pair.1.endpoints)

variable {objects slices key}

/-- Leaving conditions out makes no endpoint ready. -/
theorem hasReady_of_leavesOut (h : List.Forall₂ SliceLeavesOut objects.endpointSlices slices)
    (hready : HasReady (withSlices objects slices) key) : HasReady objects key := by
  obtain ⟨slice', hslice', e', he', hready⟩ := hready
  obtain ⟨hmem', hof⟩ := List.mem_filter.mp hslice'
  obtain ⟨slice, hmem, hleaves⟩ := exists_left_of_forall₂ h hmem'
  obtain ⟨e, he, hleft⟩ := exists_left_of_forall₂ hleaves.endpoints he'
  refine ⟨slice, List.mem_filter.mpr ⟨hmem, ?_⟩, e, he, ?_⟩
  · rwa [← hleaves.ns, ← hleaves.serviceName]
  · rcases hleft.ready with hsame | ⟨htrue, -⟩
    · exact hsame.symm.trans hready
    · exact htrue

variable {svc : Service} {slice slice' : EndpointSlice}

/-- Related lists have the same results where the related elements that are
selected have. -/
theorem flatMap_filter_eq {α β : Type*} {R : α → α → Prop} {p : α → Bool} {f : α → List β}
    {l l' : List α} (h : List.Forall₂ R l l') (hp : ∀ a a', R a a' → p a' = p a)
    (hf : ∀ a a', R a a' → p a = true → f a' = f a) :
    (l'.filter p).flatMap f = (l.filter p).flatMap f := by
  induction h with
  | nil => rfl
  | cons hhead _ ih =>
    rw [List.filter_cons, List.filter_cons, hp _ _ hhead]
    split
    · rename_i hselected
      rw [List.flatMap_cons, List.flatMap_cons, ih, hf _ _ hhead hselected]
    · exact ih

theorem sliceAddresses_eq (hports : slice'.ports = slice.ports)
    (h : PortResolves svc key slice → slice'.endpoints = slice.endpoints) :
    sliceAddresses svc key slice' = sliceAddresses svc key slice := by
  have heq : endpointPort svc key slice' = endpointPort svc key slice := by
    simp [endpointPort, endpointSlicePort, hports]
  rw [sliceAddresses, sliceAddresses, heq]
  cases hport : endpointPort svc key slice with
  | none => rfl
  | some port =>
    have hresolves : PortResolves svc key slice := by
      rw [← endpointPort_isSome_iff, hport]
      rfl
    rw [h hresolves]

theorem readyAddresses_eq (h : List.Forall₂ SliceLeavesOut objects.endpointSlices slices)
    (hstates : StatesReadiness objects slices key)
    (hsvc : objects.getService key.ns key.name = some svc)
    (hinternal : isExternalName svc = false) (hheadless : svc.clusterIP = clusterIPNone) :
    readyAddresses (withSlices objects slices) svc key = readyAddresses objects svc key := by
  obtain ⟨hlength, hzip⟩ := List.forall₂_iff_zip.mp h
  have hboth : List.Forall₂ (fun slice slice' => SliceLeavesOut slice slice' ∧
      (slice.ns = key.ns → slice.serviceName = key.name → PortResolves svc key slice →
        slice'.endpoints = slice.endpoints)) objects.endpointSlices slices := by
    refine List.forall₂_iff_zip.mpr ⟨hlength, ?_⟩
    intro slice slice' hpair
    exact ⟨hzip hpair, (hstates svc hsvc hinternal).2 hheadless (slice, slice') hpair⟩
  refine flatMap_filter_eq hboth ?_ ?_
  · rintro slice slice' ⟨hleaves, -⟩
    rw [hleaves.ns, hleaves.serviceName]
  · rintro slice slice' ⟨hleaves, hkept⟩ hof
    obtain ⟨hns, hname⟩ := Bool.and_eq_true_iff.mp hof
    exact sliceAddresses_eq hleaves.ports
      (hkept (of_decide_eq_true hns) (of_decide_eq_true hname))

theorem serviceHasReadyEndpoint_eq (h : List.Forall₂ SliceLeavesOut objects.endpointSlices slices)
    (hstates : StatesReadiness objects slices key)
    (hsvc : objects.getService key.ns key.name = some svc)
    (hinternal : isExternalName svc = false) :
    serviceHasReadyEndpoint (withSlices objects slices) key.ns key.name =
      serviceHasReadyEndpoint objects key.ns key.name := by
  rw [Bool.eq_iff_iff, serviceHasReadyEndpoint_iff, serviceHasReadyEndpoint_iff]
  exact ⟨hasReady_of_leavesOut h, (hstates svc hsvc hinternal).1⟩

/-- Both passes find the Service as it was. -/
theorem probes_eq (h : List.Forall₂ SliceLeavesOut objects.endpointSlices slices)
    (hstates : StatesReadiness objects slices key) :
    headlessProbe (withSlices objects slices) key = headlessProbe objects key ∧
      zeroEndpoints (withSlices objects slices) key = zeroEndpoints objects key := by
  have hget : (withSlices objects slices).getService key.ns key.name =
      objects.getService key.ns key.name := rfl
  rw [headlessProbe, headlessProbe, zeroEndpoints, zeroEndpoints, hget]
  cases hsvc : objects.getService key.ns key.name with
  | none => exact ⟨rfl, rfl⟩
  | some svc =>
    cases hexternal : isExternalName svc with
    | true => simp [hexternal]
    | false =>
      have hready := serviceHasReadyEndpoint_eq h hstates hsvc hexternal
      refine ⟨?_, by simp [hready]⟩
      by_cases hheadless : svc.clusterIP = clusterIPNone
      · have haddresses := readyAddresses_eq h hstates hsvc hexternal hheadless
        simp [resolveHeadlessEndpoints_eq, hready, haddresses]
      · simp [hheadless]

end Objects

section Build

theorem visitRule_congr {κ : Type} {step step' : κ → RouteRule → RouteRule} {keys : List κ}
    (h : ∀ k ∈ keys, step k = step' k) (rule : RouteRule) :
    visitRule step keys rule = visitRule step' keys rule := by
  induction keys generalizing rule with
  | nil => rfl
  | cons key rest ih =>
    rw [visitRule, visitRule, List.foldl_cons, h key List.mem_cons_self]
    exact ih (fun k hk => h k (List.mem_cons_of_mem key hk)) _

variable {s : ProxySyncer} {slices : List EndpointSlice} {routes : List HTTPRoute}
  {grpcRoutes : List GRPCRoute}

/-- The rules of a build come out the same where the Services in question are found
as they were. -/
theorem probedRule_eq_of_probes {refs : List ServiceKey}
    (hprobes : ∀ key ∈ refs,
      headlessProbe (withSlices s.objects slices) key = headlessProbe s.objects key ∧
        zeroEndpoints (withSlices s.objects slices) key = zeroEndpoints s.objects key)
    (marked : List ConvertedRule) :
    probedRule { s with objects := withSlices s.objects slices } refs marked =
      probedRule s refs marked := by
  have hrefs : ∀ {rules : List ConvertedRule}, ∀ key ∈ visitedServices s refs rules, key ∈ refs :=
    fun key hkey => List.mem_of_mem_filter (mem_of_mem_dedupBy hkey).1
  have hheadless : ∀ rules rule,
      headlessRules { s with objects := withSlices s.objects slices }
          (visitedServices s refs rules) rule =
        headlessRules s (visitedServices s refs rules) rule := by
    intro rules rule
    refine visitRule_congr ?_ rule
    intro key hkey
    funext rule
    simp [headlessRule, (hprobes key (hrefs key hkey)).1]
  have hzeros : ∀ rules rule,
      zeroEndpointRules { s with objects := withSlices s.objects slices }
          (visitedServices s refs rules) rule =
        zeroEndpointRules s (visitedServices s refs rules) rule := by
    intro rules rule
    refine visitRule_congr ?_ rule
    intro key hkey
    funext rule
    simp [zeroEndpointRule, (hprobes key (hrefs key hkey)).2]
  funext rule
  have hexpanded : mapRules (headlessRules { s with objects := withSlices s.objects slices }
      (visitedServices s refs marked)) marked =
        mapRules (headlessRules s (visitedServices s refs marked)) marked :=
    congrArg (mapRules · marked) (funext (hheadless marked))
  show externalRule s.lib s.objects (zeroEndpointRules _ (visitedServices s refs (mapRules
    (headlessRules _ (visitedServices s refs marked)) marked)) (headlessRules _ _ rule)) = _
  rw [hexpanded, hheadless, hzeros]
  rfl

end Build

section Fixtures

/-- Two endpoints with these Ready conditions. -/
def webSlice (first second : Option Bool) : EndpointSlice :=
  ⟨"shop", "web", [⟨some "http", some 8080⟩],
    [⟨["10.1.0.1"], first⟩, ⟨["10.1.0.2"], second⟩]⟩

/-- A Service with this cluster IP, both of whose endpoints are ready. -/
def webSyncer (clusterIP : String) : ProxySyncer where
  objects :=
    { gateways := []
      listenerSets := []
      gatewayClasses := []
      namespaces := []
      labelSelectorAsSelector := fun _ => none
      services := [⟨.of "shop" "web", .other "ClusterIP", clusterIP, [httpPort]⟩]
      endpointSlices := [webSlice (some true) (some true)]
      parsesCABundle := fun _ => true
      x509KeyPair := fun _ _ => true }
  lib := .literal
  clusterDomain := "local"
  controllerName := "example.com/tunnel"

/-- The build for a route to the Service, its endpoints with these conditions. -/
def webBuild (clusterIP : String) (first second : Option Bool) : BuiltConfig :=
  ProxySyncer.buildProxyConfig
    { webSyncer clusterIP with
      objects := withSlices (webSyncer clusterIP).objects [webSlice first second] }
    1 [routeTo "web" 1] [] [] []

theorem webSlice_leavesOut {first second : Option Bool}
    (hfirst : first = some true ∨ first = none) (hsecond : second = some true ∨ second = none)
    (clusterIP : String) :
    List.Forall₂ SliceLeavesOut (webSyncer clusterIP).objects.endpointSlices
      [webSlice first second] := by
  have hleaves : ∀ {address : String} {ready : Option Bool}, ready = some true ∨ ready = none →
      LeavesOut ⟨[address], some true⟩ ⟨[address], ready⟩ := by
    intro address ready h
    exact ⟨rfl, h.imp_right fun hnone => ⟨rfl, hnone⟩⟩
  exact .cons ⟨rfl, rfl, rfl, .cons (hleaves hfirst) (.cons (hleaves hsecond) .nil)⟩ .nil

def backendsOf (cfg : BuiltConfig) : List (List (String × ℤ × ℤ)) :=
  cfg.config.rules.map fun rule =>
    rule.backends.map fun b => (b.url, b.weight, b.unavailableStatus)

end Fixtures

end TunnelGateway.UnsetReadiness
