import TunnelGateway.EndpointProbes

/-!
What failed references of other routes do to a backend. Failed references are
reduced to hosts and marked in all rules, so a route that may not refer to a
Service takes down the backends of the routes that may.
-/
namespace TunnelGateway.Noninterference

open GoText GatewayApi RouteSpec ProxyConfig ClusterObjects ServiceTarget RouteConversion
open BackendPasses FailedRefs BuildConfig BackendFate RouteOrigin FanOut ServiceURL EndpointProbes

section Marks

/-- The failed reference is looked up by the host of the backend. -/
def Hits (s : ProxySyncer) (ref : BackendRefError) (b : Backend) : Prop :=
  s.failedHost ref ≠ "" ∧ hostOf s.lib b.url = some (s.failedHost ref)

instance (s : ProxySyncer) (ref : BackendRefError) (b : Backend) : Decidable (Hits s ref b) := by
  unfold Hits
  infer_instance

/-- Failed references turn an unmarked backend to 500 if one of them hits it. -/
theorem failedFate_eq (s : ProxySyncer) (refs : List BackendRefError) (b : Backend) :
    (b.unavailableStatus = 0 ∧ (∃ ref ∈ refs, Hits s ref b) ∧
        failedFate s refs b = [{ b with unavailableStatus := statusInternalServerError }]) ∨
      ((b.unavailableStatus ≠ 0 ∨ ¬ ∃ ref ∈ refs, Hits s ref b) ∧ failedFate s refs b = [b]) := by
  induction refs using List.reverseRecOn with
  | nil => exact .inr ⟨.inr (by simp), rfl⟩
  | append_singleton refs ref ih =>
    have hstep : failedFate s (refs ++ [ref]) b =
        (failedFate s refs b).flatMap
          (markFate s.lib (s.failedHost ref) statusInternalServerError) := by
      rw [failedFate_append]
      rfl
    rcases ih with ⟨hzero, hhit, hfate⟩ | ⟨hsafe, hfate⟩
    · -- Already turned to 500, and the first marking wins.
      refine .inl ⟨hzero, ?_, ?_⟩
      · obtain ⟨ref', hmem, hhits⟩ := hhit
        exact ⟨ref', List.mem_append_left _ hmem, hhits⟩
      · rw [hstep, hfate, List.flatMap_singleton, markFate]
        rw [markBackend_of_marked (by simp [statusInternalServerError]), ite_self]
    · rw [hstep, hfate, List.flatMap_singleton]
      by_cases hhits : b.unavailableStatus = 0 ∧ Hits s ref b
      · obtain ⟨hzero, hhost, hat⟩ := hhits
        refine .inl ⟨hzero, ⟨ref, by simp, hhost, hat⟩, ?_⟩
        rw [markFate, if_neg hhost, markBackend, if_pos (by simp [unmarkedAt, hzero, hat])]
      · refine .inr ⟨?_, ?_⟩
        · rcases hsafe with hmarked | hnone
          · exact .inl hmarked
          · by_cases hzero : b.unavailableStatus = 0
            · refine .inr ?_
              intro h
              obtain ⟨ref', hmem, hhit⟩ := h
              rcases List.mem_append.mp hmem with hmem | hmem
              · exact hnone ⟨ref', hmem, hhit⟩
              · rw [List.mem_singleton.mp hmem] at hhit
                exact hhits ⟨hzero, hhit⟩
            · exact .inl hzero
        · rw [markFate]
          split
          · rfl
          · rename_i hhost
            rw [markBackend, if_neg ?_]
            intro hat
            simp only [unmarkedAt, Bool.and_eq_true, decide_eq_true_eq] at hat
            exact hhits ⟨hat.1, hhost, hat.2⟩

end Marks

section Builds

variable (s : ProxySyncer)

def setFailedRefs (set : RouteSet) : List BackendRefError :=
  httpFailedRefs s.objects s.lib s.clusterDomain set.http

def setGRPCFailedRefs (set : RouteSet) : List BackendRefError :=
  grpcFailedRefs s.objects s.lib s.clusterDomain set.grpc

/-- The configuration of a set of routes, with the failures the ingress builder
finds in them. -/
def buildFrom (version : ℤ) (set : RouteSet) : BuiltConfig :=
  s.buildProxyConfig version set.http set.grpc (setFailedRefs s set) (setGRPCFailedRefs s set)

/-- What becomes of a converted backend in that configuration. -/
def fateIn (set : RouteSet) (kind : RouteKind) : Fate Backend :=
  buildFate s set.http set.grpc (setFailedRefs s set) (setGRPCFailedRefs s set) kind

/-- The failures of the set that reach the rules of a kind. -/
def failuresFor (set : RouteSet) (kind : RouteKind) : List BackendRefError :=
  appliedRefs set.grpc (setFailedRefs s set) (setGRPCFailedRefs s set) kind

def setMarkedRules (set : RouteSet) : List ConvertedRule :=
  s.markedRules set.http set.grpc (setFailedRefs s set) (setGRPCFailedRefs s set)

/-- Once the failures are marked, a web URL is only probed. -/
theorem fateIn_of_failedFate {set : RouteSet} {kind : RouteKind} {b b₁ : Backend}
    (hfailed : failedFate s (failuresFor s set kind) b = [b₁]) (hweb : IsWeb b₁.url) :
    fateIn s set kind b = probedFate s set.http set.grpc (setMarkedRules s set) b₁ := by
  have hprobing := probing_probedFate s set.http set.grpc (setMarkedRules s set)
  have hexternal : ∀ d ∈ probedFate s set.http set.grpc (setMarkedRules s set) b₁,
      externalFate s.lib s.objects d = [d] := by
    intro d hd
    rw [externalFate, resolveExternalBackend_of_isWeb (hprobing.web b₁ hweb d hd)]
  change ((failedFate s (failuresFor s set kind) b).flatMap
    (probedFate s set.http set.grpc (setMarkedRules s set))).flatMap
      (externalFate s.lib s.objects) = _
  rw [hfailed, List.flatMap_singleton, List.flatMap_congr hexternal, List.flatMap_singleton']

variable {s} {set : RouteSet} {kind : RouteKind} {b : Backend}

theorem fateIn_of_marked (hweb : IsWeb b.url) (hmarked : b.unavailableStatus ≠ 0) :
    fateIn s set kind b = [b] := by
  have hfailed : failedFate s (failuresFor s set kind) b = [b] := by
    rcases failedFate_eq s (failuresFor s set kind) b with ⟨hzero, -, -⟩ | ⟨-, hfate⟩
    · exact absurd hzero hmarked
    · exact hfate
  rw [fateIn_of_failedFate s hfailed hweb]
  exact (probing_probedFate s _ _ _).marked b hmarked

theorem fateIn_of_hit (hweb : IsWeb b.url) (hzero : b.unavailableStatus = 0)
    (hhit : ∃ ref ∈ failuresFor s set kind, Hits s ref b) :
    fateIn s set kind b = [{ b with unavailableStatus := statusInternalServerError }] := by
  rcases failedFate_eq s (failuresFor s set kind) b with ⟨-, -, hfate⟩ | ⟨hsafe, -⟩
  · rw [fateIn_of_failedFate s hfate hweb]
    exact (probing_probedFate s _ _ _).marked _ (by simp [statusInternalServerError])
  · rcases hsafe with hmarked | hnone
    · exact absurd hzero hmarked
    · exact absurd hhit hnone

theorem failedFate_of_not_hit (hnone : ¬ ∃ ref ∈ failuresFor s set kind, Hits s ref b) :
    failedFate s (failuresFor s set kind) b = [b] := by
  rcases failedFate_eq s (failuresFor s set kind) b with ⟨-, hhit, -⟩ | ⟨-, hfate⟩
  · exact absurd hhit hnone
  · exact hfate

/-- The backend answers 500. -/
def Fails (fate : List Backend) : Prop :=
  ∃ d ∈ fate, d.unavailableStatus = statusInternalServerError

theorem fails_fateIn_iff (hweb : IsWeb b.url) :
    Fails (fateIn s set kind b) ↔ b.unavailableStatus = statusInternalServerError ∨
      (b.unavailableStatus = 0 ∧ ∃ ref ∈ failuresFor s set kind, Hits s ref b) := by
  by_cases hzero : b.unavailableStatus = 0
  · have hne : b.unavailableStatus ≠ statusInternalServerError := by
      rw [hzero]
      decide
    by_cases hhit : ∃ ref ∈ failuresFor s set kind, Hits s ref b
    · rw [fateIn_of_hit hweb hzero hhit]
      simp [Fails, hzero, hhit]
    · have hnone : ¬ Fails (fateIn s set kind b) := by
        intro hfails
        obtain ⟨d, hd, hstatus⟩ := hfails
        rw [fateIn_of_failedFate s (failedFate_of_not_hit hhit) hweb] at hd
        rcases (probing_probedFate s _ _ _).unmarked b hzero d hd with h | h
        · rw [h] at hstatus
          exact absurd hstatus (by decide)
        · rw [h] at hstatus
          exact absurd hstatus (by decide)
      exact iff_of_false hnone fun h => h.elim hne fun h => hhit h.2
  · rw [fateIn_of_marked hweb hzero]
    simp [Fails, hzero]

end Builds

section Alone

variable {s : ProxySyncer} {set : RouteSet} {route : AnyRoute}

/-- A route's own failures are among those of the set. -/
theorem failuresFor_single (hroute : route ∈ set) {ref : BackendRefError}
    (href : ref ∈ failuresFor s (.single route) route.kind) :
    ref ∈ failuresFor s set route.kind := by
  cases route with
  | http route =>
    have hown : ref ∈ routeFailedRefs s.objects s.lib s.clusterDomain .HTTPRoute httpBackendRefs
        route := by
      simpa [failuresFor, appliedRefs, setFailedRefs, httpFailedRefs, RouteSet.single,
        AnyRoute.kind] using href
    exact List.mem_append_left _ (List.mem_flatMap.mpr ⟨route, hroute, hown⟩)
  | grpc route =>
    have hown : ref ∈ routeFailedRefs s.objects s.lib s.clusterDomain .GRPCRoute grpcBackendRefs
        route := by
      simpa [failuresFor, appliedRefs, setGRPCFailedRefs, grpcFailedRefs, RouteSet.single,
        AnyRoute.kind] using href
    exact List.mem_flatMap.mpr ⟨route, hroute, hown⟩

/-- A failure of the set hits the backend only if one of the route's own does,
or the backend is marked already. -/
def Undisturbed (s : ProxySyncer) (set : RouteSet) (route : AnyRoute) (b : Backend) : Prop :=
  b.unavailableStatus ≠ 0 ∨
    ((∃ ref ∈ failuresFor s set route.kind, Hits s ref b) →
      ∃ ref ∈ failuresFor s (.single route) route.kind, Hits s ref b)

variable {b : Backend}

theorem fails_alike_iff (hroute : route ∈ set) (hweb : IsWeb b.url) :
    (Fails (fateIn s set route.kind b) ↔ Fails (fateIn s (.single route) route.kind b)) ↔
      Undisturbed s set route b := by
  have hmono : (∃ ref ∈ failuresFor s (.single route) route.kind, Hits s ref b) →
      ∃ ref ∈ failuresFor s set route.kind, Hits s ref b := by
    intro h
    obtain ⟨ref, href, hhit⟩ := h
    exact ⟨ref, failuresFor_single hroute href, hhit⟩
  rw [fails_fateIn_iff hweb, fails_fateIn_iff hweb, Undisturbed]
  by_cases hzero : b.unavailableStatus = 0
  · simp only [hzero, true_and, ne_eq, not_true_eq_false]
    have hne : 0 ≠ statusInternalServerError := by decide
    simp only [hne, false_or]
    exact ⟨fun h => h.mp, fun h => ⟨h, hmono⟩⟩
  · simp [hzero]

/-- The Service references of the set that are probed for endpoints. -/
def probedRefs (s : ProxySyncer) (set : RouteSet) : List ServiceKey :=
  visitedRefs s set.http set.grpc

theorem probedRefs_single (hroute : route ∈ set) {key : ServiceKey}
    (hkey : key ∈ probedRefs s (.single route)) : key ∈ probedRefs s set := by
  cases route with
  | http route =>
    have hown : key ∈ serviceRefs httpRuleRefs [prepareHTTPRoute s route] := by
      rcases List.mem_append.mp hkey with h | h
      · rwa [preparedHTTPRoutes_eq] at h
      · exact absurd h List.not_mem_nil
    refine List.mem_append_left _ ?_
    rw [preparedHTTPRoutes_eq]
    obtain ⟨prepared, hmem, hrest⟩ := List.mem_flatMap.mp hown
    rw [List.mem_singleton.mp hmem] at hrest
    exact List.mem_flatMap.mpr ⟨_, List.mem_map_of_mem hroute, hrest⟩
  | grpc route =>
    have hown : key ∈ serviceRefs grpcRuleRefs [prepareGRPCRoute s route] := by
      rcases List.mem_append.mp hkey with h | h
      · exact absurd h List.not_mem_nil
      · exact h
    refine List.mem_append_right _ ?_
    obtain ⟨prepared, hmem, hrest⟩ := List.mem_flatMap.mp hown
    rw [List.mem_singleton.mp hmem] at hrest
    exact List.mem_flatMap.mpr ⟨_, List.mem_map_of_mem hroute, hrest⟩

/-- The other routes do not change how the backend is probed: the first reference
with its host names the same Service, and no endpoint of that Service has the host
of a reference. -/
structure ProbedAlike (s : ProxySyncer) (set : RouteSet) (route : AnyRoute) (b : Backend) :
    Prop where
  sameService : ∀ host ∈ hostOf s.lib b.url,
    (probedRefs s set).find? (·.host s.lib s.clusterDomain = host) =
      (probedRefs s (.single route)).find? (·.host s.lib s.clusterDomain = host)
  endpointsFree : ∀ host ∈ hostOf s.lib b.url,
    ∀ key ∈ (probedRefs s set).find? (·.host s.lib s.clusterDomain = host),
      ∀ d ∈ headlessFate s.objects s.lib s.clusterDomain key b, d.unavailableStatus = 0 →
        hostOf s.lib d.url = some host ∨ ∀ k ∈ probedRefs s set,
          hostOf s.lib d.url ≠ some (k.host s.lib s.clusterDomain)

/-- A backend that no failure hits is among the marked rules as it was. -/
theorem exists_markedRule {c₀ : ConvertedRule} (hc₀ : c₀ ∈ convertedRules s set.http set.grpc)
    (hb : b ∈ c₀.rule.backends.map core)
    (hnone : ¬ ∃ ref ∈ failuresFor s set c₀.provenance.kind, Hits s ref b) :
    ∃ c ∈ setMarkedRules s set, b ∈ c.rule.backends.map core := by
  obtain ⟨c, hc, -, hrule⟩ := exists_right_of_forall₂
    (rewritesAll_markedRules s set.http set.grpc (setFailedRefs s set) (setGRPCFailedRefs s set)) hc₀
  refine ⟨c, hc, ?_⟩
  rw [hrule.backends]
  refine List.mem_flatMap.mpr ⟨b, hb, ?_⟩
  change b ∈ failedFate s (failuresFor s set c₀.provenance.kind) b
  rw [failedFate_of_not_hit hnone]
  exact List.mem_singleton_self b

/-- A probe never finds a URL without a host. -/
theorem probedFate_of_no_host {rules : List ConvertedRule} (h : hostOf s.lib b.url = none) :
    probedFate s set.http set.grpc rules b = [b] := by
  have hrun : ∀ {keys : List ServiceKey} {fate : ServiceKey → Fate Backend},
      (∀ key, IsProbe s.lib (key.host s.lib s.clusterDomain) (fate key)) →
        Fate.run (keys.map fate) b = [b] := by
    intro keys fate hprobe
    refine run_map_eq_singleton ?_
    intro key _
    exact eq_singleton_of_host_ne (hprobe key) (by simp [h])
  change (Fate.run _ b).flatMap (Fate.run _) = _
  rw [hrun (isProbe_headlessFate s.objects s.lib s.clusterDomain), List.flatMap_singleton,
    hrun (isProbe_zeroEndpointFate s.objects s.lib s.clusterDomain)]

theorem probed_alike (hroute : route ∈ set) (hzero : b.unavailableStatus = 0)
    (halike : ProbedAlike s set route b)
    (hfull : ∃ c ∈ setMarkedRules s set, b ∈ c.rule.backends.map core)
    (halone : ∃ c ∈ setMarkedRules s (.single route), b ∈ c.rule.backends.map core) :
    probedFate s set.http set.grpc (setMarkedRules s set) b =
      probedFate s (RouteSet.single route).http (RouteSet.single route).grpc
        (setMarkedRules s (.single route)) b := by
  cases hhost : hostOf s.lib b.url with
  | none => rw [probedFate_of_no_host hhost, probedFate_of_no_host hhost]
  | some host =>
    have hsame := halike.sameService host hhost
    obtain ⟨c, hc, hb⟩ := hfull
    obtain ⟨c', hc', hb'⟩ := halone
    have hset := probedFate_eq s hc hb hzero hhost (halike.endpointsFree host hhost)
    have hsingle := probedFate_eq s hc' hb' hzero hhost (by
      intro key hkey d hd hdzero
      have hfirst : key ∈ (probedRefs s set).find? (·.host s.lib s.clusterDomain = host) := by
        rw [hsame]
        exact hkey
      rcases halike.endpointsFree host hhost key hfirst d hd hdzero with h | h
      · exact .inl h
      · exact .inr fun k hk => h k (probedRefs_single hroute hk))
    rw [hset, hsingle]
    exact congrArg (fun found => Option.elim found [b] fun key => probeFate s key b) hsame

theorem statuses_alike_iff (hroute : route ∈ set) {c₀ : ConvertedRule}
    (hc₀ : c₀ ∈ convertAnyRoute s s.gatewayCertResolver route)
    (hb : b ∈ c₀.rule.backends.map core) (hweb : IsWeb b.url) (halike : ProbedAlike s set route b) :
    (fateIn s set route.kind b).map (·.unavailableStatus) =
        (fateIn s (.single route) route.kind b).map (·.unavailableStatus) ↔
      Undisturbed s set route b := by
  have hkind := (comesFrom_of_mem_convertAnyRoute s hc₀).1
  constructor
  · intro heq
    refine (fails_alike_iff hroute hweb).mp ?_
    have hmem : ∀ fate : List Backend,
        Fails fate ↔ statusInternalServerError ∈ fate.map (·.unavailableStatus) := by
      intro fate
      simp [Fails]
    rw [hmem, hmem, heq]
  · intro hquiet
    by_cases hzero : b.unavailableStatus = 0
    · have himp := hquiet.resolve_left (fun h => h hzero)
      by_cases hhit : ∃ ref ∈ failuresFor s set route.kind, Hits s ref b
      · rw [fateIn_of_hit hweb hzero hhit, fateIn_of_hit hweb hzero (himp hhit)]
      · have hown : ¬ ∃ ref ∈ failuresFor s (.single route) route.kind, Hits s ref b := by
          intro h
          obtain ⟨ref, href, hhits⟩ := h
          exact hhit ⟨ref, failuresFor_single hroute href, hhits⟩
        have hfull := (mem_convertedRules s set c₀).mpr ⟨route, hroute, hc₀⟩
        have halone := (mem_convertedRules s (.single route) c₀).mpr
          ⟨route, RouteSet.mem_single.mpr rfl, hc₀⟩
        rw [fateIn_of_failedFate s (failedFate_of_not_hit hhit) hweb,
          fateIn_of_failedFate s (failedFate_of_not_hit hown) hweb,
          probed_alike hroute hzero halike
            (exists_markedRule hfull hb (by rw [hkind]; exact hhit))
            (exists_markedRule halone hb (by rw [hkind]; exact hown))]
    · rw [fateIn_of_marked hweb hzero, fateIn_of_marked hweb hzero]

/-- A rule of a route stands in the full configuration and in the one built from
the route alone. A Service backend of it answers 500 in both or in neither exactly
when it is undisturbed; where the endpoints are probed alike, that decides whether
its status is the same. -/
theorem failed_refs_interfere_iff (version : ℤ) (hroute : route ∈ set) {c₀ : ConvertedRule}
    (hc₀ : c₀ ∈ convertAnyRoute s s.gatewayCertResolver route) :
    ∃ full ∈ (buildFrom s version set).rules, ∃ alone ∈ (buildFrom s version (.single route)).rules,
      full.provenance = c₀.provenance ∧ alone.provenance = c₀.provenance ∧
      Rewrites (fateIn s set route.kind) c₀.rule full.rule ∧
      Rewrites (fateIn s (.single route) route.kind) c₀.rule alone.rule ∧
      ∀ b ∈ c₀.rule.backends.map core,
        (¬ ∃ ns name, b.url = externalBackendSentinelURL s.lib ns name) →
        ((Fails (fateIn s set route.kind b) ↔ Fails (fateIn s (.single route) route.kind b)) ↔
            Undisturbed s set route b) ∧
          (ProbedAlike s set route b →
            ((fateIn s set route.kind b).map (·.unavailableStatus) =
                (fateIn s (.single route) route.kind b).map (·.unavailableStatus) ↔
              Undisturbed s set route b)) := by
  have hkind := (comesFrom_of_mem_convertAnyRoute s hc₀).1
  obtain ⟨full, hfull, hprov, hrule⟩ := exists_right_of_forall₂
    (rewritesAll_buildProxyConfig s version set.http set.grpc (setFailedRefs s set)
      (setGRPCFailedRefs s set)) ((mem_convertedRules s set c₀).mpr ⟨route, hroute, hc₀⟩)
  obtain ⟨alone, halone, hprov', hrule'⟩ := exists_right_of_forall₂
    (rewritesAll_buildProxyConfig s version (RouteSet.single route).http
      (RouteSet.single route).grpc (setFailedRefs s (.single route))
      (setGRPCFailedRefs s (.single route)))
    ((mem_convertedRules s (.single route) c₀).mpr ⟨route, RouteSet.mem_single.mpr rfl, hc₀⟩)
  rw [hkind] at hrule hrule'
  refine ⟨full, hfull, alone, halone, hprov, hprov', hrule, hrule', ?_⟩
  intro b hb hservice
  have hweb : IsWeb b.url := by
    obtain ⟨b₀, hb₀, rfl⟩ := List.mem_map.mp hb
    exact (url_convertAnyRoute hc₀ hb₀).resolve_right hservice
  exact ⟨fails_alike_iff hroute hweb, fun halike => statuses_alike_iff hroute hc₀ hb hweb halike⟩

end Alone

section Examples

def shopService : Service :=
  ⟨.of "shop" "web", .other "ClusterIP", "10.0.0.1",
    [⟨"http", 80, .number 8080, none⟩]⟩

def shopSlice : EndpointSlice :=
  ⟨"shop", "web", [⟨some "http", some 8080⟩], [⟨["10.1.0.1"], some true⟩]⟩

/-- One healthy Service and no ReferenceGrant. -/
def shopSyncer : ProxySyncer where
  objects :=
    { gateways := []
      listenerSets := []
      gatewayClasses := []
      namespaces := []
      labelSelectorAsSelector := fun _ => none
      services := [shopService]
      endpointSlices := [shopSlice]
      parsesCABundle := fun _ => true
      x509KeyPair := fun _ _ => true }
  lib := .literal
  clusterDomain := "cluster.local"
  controllerName := "example.com/tunnel"

/-- A route of the Service's own namespace. -/
def shopRoute : HTTPRoute :=
  ⟨.of "shop" "site", 0, [], [], [{ backendRefs := [{ name := "web" }] }]⟩

/-- Refers to the Service from a namespace that no grant admits. -/
def strangerRoute : HTTPRoute :=
  ⟨.of "stranger" "probe", 1, [], [],
    [{ backendRefs := [{ name := "web", ns := some "shop" }] }]⟩

/-- Refers to a Service that its own namespace does not have. -/
def brokenRoute : HTTPRoute :=
  ⟨.of "shop" "broken", 1, [], [],
    [{ backendRefs := [{ name := "missing" }] }]⟩

def withStranger : RouteSet := ⟨[shopRoute, strangerRoute], [], by decide, by decide⟩

def withBroken : RouteSet := ⟨[shopRoute, brokenRoute], [], by decide, by decide⟩

/-- The statuses of a route's backends. -/
def backendStatuses (cfg : BuiltConfig) (route : AnyRoute) : List ℤ :=
  (cfg.rules.filter fun c => ComesFrom c route).flatMap fun c =>
    c.rule.backends.map (·.unavailableStatus)

/-- A foreign reference without permission takes down the route of the Service's
own namespace. -/
theorem stranger_fails_shop_backend :
    (shopSyncer.objects.getService "shop" "web").map (·.ports.map ServicePort.port) = some [80] ∧
    backendStatuses (buildFrom shopSyncer 1 (.single (.http shopRoute))) (.http shopRoute) = [0] ∧
    backendStatuses (buildFrom shopSyncer 1 withStranger) (.http shopRoute) = [500] := by
  decide +kernel

def shopBackend : Backend := { url := "http://web.shop.svc.cluster.local:80", weight := 1 }

theorem shopBackend_probed_alike :
    ProbedAlike shopSyncer withBroken (.http shopRoute) shopBackend := by
  have hhost : hostOf shopSyncer.lib shopBackend.url = some "web.shop.svc.cluster.local:80" := by
    decide +kernel
  refine ⟨?_, ?_⟩
  · intro host h
    rw [hhost, Option.mem_some_iff] at h
    subst h
    decide +kernel
  · intro host h key hkey d hd _
    rw [hhost, Option.mem_some_iff] at h
    subst h
    have hunchanged : ∀ key ∈ probedRefs shopSyncer withBroken,
        headlessFate shopSyncer.objects shopSyncer.lib shopSyncer.clusterDomain key shopBackend =
          [shopBackend] := by decide +kernel
    rw [hunchanged key (List.mem_of_find?_eq_some hkey), List.mem_singleton] at hd
    rw [hd]
    exact .inl hhost

/-- A failure at another host leaves the status as it is. -/
theorem withBroken_statuses_alike :
    AnyRoute.http shopRoute ∈ withBroken ∧
    ∃ c₀ ∈ convertAnyRoute shopSyncer shopSyncer.gatewayCertResolver (.http shopRoute),
      ∃ full ∈ (buildFrom shopSyncer 1 withBroken).rules,
      ∃ alone ∈ (buildFrom shopSyncer 1 (.single (.http shopRoute))).rules,
        full.provenance = c₀.provenance ∧ alone.provenance = c₀.provenance ∧
        (fateIn shopSyncer withBroken .HTTPRoute shopBackend).map (·.unavailableStatus) =
          (fateIn shopSyncer (.single (.http shopRoute)) .HTTPRoute shopBackend).map
            (·.unavailableStatus) := by
  have hmem : AnyRoute.http shopRoute ∈ withBroken := by
    change shopRoute ∈ [shopRoute, brokenRoute]
    exact List.mem_cons_self
  have hconverted : ∃ c₀ ∈ convertAnyRoute shopSyncer shopSyncer.gatewayCertResolver
      (.http shopRoute), shopBackend ∈ c₀.rule.backends.map core := by decide +kernel
  have hquiet : ¬ ∃ ref ∈ failuresFor shopSyncer withBroken .HTTPRoute,
      Hits shopSyncer ref shopBackend := by decide +kernel
  have hservice : ¬ ∃ ns name, shopBackend.url =
      externalBackendSentinelURL shopSyncer.lib ns name := by
    intro h
    obtain ⟨ns, name, heq⟩ := h
    have hhead := congrArg (fun url => url.toList.head?) heq
    simp [shopBackend, externalBackendSentinelURL, externalBackendScheme] at hhead
  obtain ⟨c₀, hc₀, hb⟩ := hconverted
  obtain ⟨full, hfull, alone, halone, hprov, hprov', -, -, hstatus⟩ :=
    failed_refs_interfere_iff 1 hmem hc₀
  exact ⟨hmem, c₀, hc₀, full, hfull, alone, halone, hprov, hprov',
    ((hstatus shopBackend hb hservice).2 shopBackend_probed_alike).mpr
      (.inr fun hhit => absurd hhit hquiet)⟩

end Examples

end TunnelGateway.Noninterference
