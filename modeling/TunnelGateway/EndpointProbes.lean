import TunnelGateway.ServiceURL

/-!
The two passes that probe Services for endpoints, seen from one backend. They
leave marked backends alone, and an unmarked one is probed as the first Service
reference that has its host, whatever else the routes refer to.
-/
namespace TunnelGateway.EndpointProbes

open GoText GatewayApi RouteSpec ProxyConfig ClusterObjects ServiceTarget RouteConversion
open BackendPasses BuildConfig BackendFate RouteOrigin FanOut ServiceURL DedupBy

section Marked

/-- Probing leaves marked backends alone and marks the others with 503 at most. -/
structure Probing (f : Fate Backend) : Prop where
  marked : ∀ b, b.unavailableStatus ≠ 0 → f b = [b]
  unmarked : ∀ b, b.unavailableStatus = 0 → ∀ d ∈ f b,
    d.unavailableStatus = 0 ∨ d.unavailableStatus = statusServiceUnavailable
  web : ∀ b, IsWeb b.url → ∀ d ∈ f b, IsWeb d.url

theorem probing_unchanged : Probing Fate.unchanged where
  marked _ _ := rfl
  unmarked b hb d hd := by
    rw [List.mem_singleton.mp hd]
    exact .inl hb
  web b hb d hd := by
    rw [List.mem_singleton.mp hd]
    exact hb

theorem Probing.andThen {f g : Fate Backend} (hf : Probing f) (hg : Probing g) :
    Probing (f.andThen g) where
  marked b hb := by
    rw [Fate.andThen, hf.marked b hb, List.flatMap_singleton, hg.marked b hb]
  unmarked b hb d hd := by
    obtain ⟨mid, hmid, hd⟩ := mem_andThen.mp hd
    rcases hf.unmarked b hb mid hmid with hzero | hmarked
    · exact hg.unmarked mid hzero d hd
    · have hne : mid.unavailableStatus ≠ 0 := by
        rw [hmarked]
        decide
      rw [hg.marked mid hne, List.mem_singleton] at hd
      rw [hd]
      exact .inr hmarked
  web b hb d hd := by
    obtain ⟨mid, hmid, hd⟩ := mem_andThen.mp hd
    exact hg.web mid (hf.web b hb mid hmid) d hd

variable {lib : GoLib}

variable {b : Backend} {target : String}

theorem unmarkedAt_eq_false (hb : b.unavailableStatus ≠ 0) : unmarkedAt lib target b = false := by
  simp [unmarkedAt, hb]

theorem markBackend_of_marked {status : ℤ} (hb : b.unavailableStatus ≠ 0) :
    markBackend lib target status b = b := by
  rw [markBackend, unmarkedAt_eq_false hb]
  rfl

theorem probing_markFate (target : String) :
    Probing (markFate lib target statusServiceUnavailable) where
  marked b hb := by
    rw [markFate, markBackend_of_marked hb, ite_self]
  unmarked b hb d hd := by
    rw [List.mem_singleton.mp hd]
    unfold markBackend
    split
    · exact .inl hb
    · split
      · exact .inr rfl
      · exact .inl hb
  web b hb d hd := by
    rw [List.mem_singleton.mp hd]
    split
    · exact hb
    · rwa [url_markBackend]

theorem probing_expandFate (target : String) (endpoints : List ResolvedEndpoint) :
    Probing (expandFate lib target endpoints) where
  marked b hb := by
    have hmatch : backendMatchesHeadless lib target b = false := by
      rw [backendMatchesHeadless, unmarkedAt_eq_false hb, Bool.false_and]
    rw [expandFate, hmatch]
    exact ite_self _
  unmarked b hb d hd := by
    unfold expandFate at hd
    split at hd
    · exact probing_unchanged.unmarked b hb d hd
    · split at hd
      · obtain ⟨ep, -, rfl⟩ := List.mem_map.mp hd
        exact .inl hb
      · exact probing_unchanged.unmarked b hb d hd
  web b hb d hd := by
    unfold expandFate at hd
    split at hd
    · exact probing_unchanged.web b hb d hd
    · split at hd
      · exact isWeb_endpointBackends hb hd
      · exact probing_unchanged.web b hb d hd

theorem probing_of_isProbe {f : Fate Backend} (h : IsProbe lib target f) : Probing f := by
  cases h with
  | unchanged => exact probing_unchanged
  | expand endpoints => exact probing_expandFate target endpoints
  | mark => exact probing_markFate target

theorem probing_probedFate (s : ProxySyncer) (routes : List HTTPRoute)
    (grpcRoutes : List GRPCRoute) (rules : List ConvertedRule) :
    Probing (probedFate s routes grpcRoutes rules) := by
  have hrun : ∀ {keys : List ServiceKey} {fate : ServiceKey → Fate Backend},
      (∀ key, IsProbe s.lib (key.host s.lib s.clusterDomain) (fate key)) →
        Probing (Fate.run (keys.map fate)) := by
    intro keys fate h
    refine run_induction probing_unchanged (fun _ _ hf hg => hf.andThen hg) ?_
    intro f hf
    obtain ⟨key, -, rfl⟩ := List.mem_map.mp hf
    exact probing_of_isProbe (h key)
  exact (hrun (isProbe_headlessFate s.objects s.lib s.clusterDomain)).andThen
    (hrun (isProbe_zeroEndpointFate s.objects s.lib s.clusterDomain))

end Marked

section Hosts

variable {lib : GoLib} {clusterDomain : String} {key : ServiceKey} {b : Backend}

variable {target host : String} {rules : List ConvertedRule} {refs : List ServiceKey}
  {fate : ServiceKey → Fate Backend}

/-- A probe acts on the host of its Service only. -/
theorem eq_singleton_of_host_ne {f : Fate Backend} (hf : IsProbe lib target f)
    (h : hostOf lib b.url ≠ some target) : f b = [b] := by
  cases hf with
  | unchanged => rfl
  | expand endpoints =>
    simp [expandFate, backendMatchesHeadless, unmarkedAt, h]
  | mark => rw [markFate, markBackend_of_host_ne lib h, ite_self]

theorem mem_unmarkedBackendHosts :
    host ∈ unmarkedBackendHosts lib rules ↔
      ∃ c ∈ rules, ∃ b ∈ c.rule.backends, b.unavailableStatus = 0 ∧
        hostOf lib b.url = some host := by
  simp [unmarkedBackendHosts, and_assoc]

/-- A Service is visited exactly when it is the first reference with its host and
the configuration has an unmarked backend there. -/
theorem mem_authorizedServices :
    key ∈ authorizedServices lib clusterDomain refs rules ↔
      key.host lib clusterDomain ∈ unmarkedBackendHosts lib rules ∧
        refs.find? (fun k => k.host lib clusterDomain = key.host lib clusterDomain) = some key := by
  rw [authorizedServices, mem_dedupBy_iff_find, find?_filter_key]
  by_cases hauth : key.host lib clusterDomain ∈ unmarkedBackendHosts lib rules <;> simp

/-- Of the Services visited the first reference with the backend's host acts on
it, as long as no endpoint has the host of another reference. -/
theorem actsAlone_authorizedServices
    (hprobe : ∀ key, IsProbe lib (key.host lib clusterDomain) (fate key))
    (hhost : hostOf lib b.url = some host) (hauth : host ∈ unmarkedBackendHosts lib rules)
    (hfree : ∀ key ∈ refs.find? (·.host lib clusterDomain = host), ∀ d ∈ fate key b,
      d.unavailableStatus = 0 → hostOf lib d.url = some host ∨
        ∀ k ∈ refs, hostOf lib d.url ≠ some (k.host lib clusterDomain)) :
    ActsAlone fate (authorizedServices lib clusterDomain refs rules) b
      (refs.find? (·.host lib clusterDomain = host)) := by
  have hfirst : ∀ k ∈ authorizedServices lib clusterDomain refs rules,
      k.host lib clusterDomain = host →
        refs.find? (·.host lib clusterDomain = host) = some k := by
    intro k hk heq
    have hfind := (mem_authorizedServices.mp hk).2
    rwa [heq] at hfind
  have helsewhere : ∀ k, k.host lib clusterDomain ≠ host → fate k b = [b] := by
    intro k hne
    refine eq_singleton_of_host_ne (hprobe k) ?_
    rw [hhost]
    exact fun heq => hne (Option.some.inj heq).symm
  cases hfind : refs.find? (·.host lib clusterDomain = host) with
  | none =>
    intro k hk
    refine helsewhere k ?_
    intro heq
    rw [hfirst k hk heq] at hfind
    cases hfind
  | some key =>
    have hkey : key.host lib clusterDomain = host := by
      simpa using List.find?_some hfind
    refine ⟨?_, ?_⟩
    · rw [mem_authorizedServices, hkey]
      exact ⟨hauth, hfind⟩
    · intro k hk hne
      have hother : k.host lib clusterDomain ≠ host := by
        intro heq
        rw [hfirst k hk heq] at hfind
        exact hne (Option.some.inj hfind)
      refine ⟨helsewhere k hother, ?_⟩
      intro d hd
      by_cases hmarked : d.unavailableStatus = 0
      · refine eq_singleton_of_host_ne (hprobe k) ?_
        rcases hfree key hfind d hd hmarked with hsame | hnone
        · rw [hsame]
          exact fun heq => hother (Option.some.inj heq).symm
        · exact hnone k (List.mem_of_mem_filter (mem_of_mem_dedupBy hk).1)
      · exact (probing_of_isProbe (hprobe k)).marked d hmarked

/-- A visit treats a backend as its first Service reference says. -/
theorem run_authorizedServices
    (hprobe : ∀ key, IsProbe lib (key.host lib clusterDomain) (fate key))
    (hhost : hostOf lib b.url = some host) (hauth : host ∈ unmarkedBackendHosts lib rules)
    (hfree : ∀ key ∈ refs.find? (·.host lib clusterDomain = host), ∀ d ∈ fate key b,
      d.unavailableStatus = 0 → hostOf lib d.url = some host ∨
        ∀ k ∈ refs, hostOf lib d.url ≠ some (k.host lib clusterDomain)) :
    Fate.run ((authorizedServices lib clusterDomain refs rules).map fate) b =
      (refs.find? (·.host lib clusterDomain = host)).elim [b] fun key => fate key b :=
  run_of_actsAlone nodup_dedupBy (actsAlone_authorizedServices hprobe hhost hauth hfree)

end Hosts

section Probed

variable (s : ProxySyncer)

/-- The Service references that are visited. -/
def visitedRefs (routes : List HTTPRoute) (grpcRoutes : List GRPCRoute) : List ServiceKey :=
  serviceRefs httpRuleRefs (s.preparedHTTPRoutes routes) ++
    serviceRefs grpcRuleRefs (s.preparedGRPCRoutes grpcRoutes)

/-- What the endpoints of a Service make of a backend. -/
def probeFate (key : ServiceKey) : Fate Backend :=
  (headlessFate s.objects s.lib s.clusterDomain key).andThen
    (zeroEndpointFate s.objects s.lib s.clusterDomain key)

variable {b d : Backend} {c : ConvertedRule} {rules : List ConvertedRule}
  {grpcRoutes : List GRPCRoute} {routes : List HTTPRoute} {host : String}

theorem url_of_mem_zeroEndpointFate {key : ServiceKey}
    (hd : d ∈ zeroEndpointFate s.objects s.lib s.clusterDomain key b) : d.url = b.url := by
  rw [zeroEndpointFate_eq] at hd
  split at hd <;> rw [List.mem_singleton.mp hd]
  split
  · rfl
  · exact url_markBackend ..

/-- The unmarked results of expanding stand in the expanded configuration. -/
theorem unmarkedHost_expanded (hc : c ∈ rules) (hb : b ∈ c.rule.backends.map core)
    (hd : d ∈ visitFate s.lib s.clusterDomain (headlessFate s.objects s.lib s.clusterDomain)
      routes grpcRoutes rules b) (hzero : d.unavailableStatus = 0)
    (hhost : hostOf s.lib d.url = some host) :
    host ∈ unmarkedBackendHosts s.lib
      (expandHeadlessBackends s.objects s.lib s.clusterDomain routes grpcRoutes rules) := by
  obtain ⟨c', hc', -, hrule⟩ := exists_right_of_forall₂
    (rewritesAll_foldl (rewritesAll_expandBackendIfHeadless s.objects s.lib s.clusterDomain)
      (authorizedServices s.lib s.clusterDomain
        (serviceRefs httpRuleRefs routes ++ serviceRefs grpcRuleRefs grpcRoutes) rules) rules) hc
  have hmem : d ∈ c'.rule.backends.map core := by
    rw [hrule.backends]
    exact List.mem_flatMap.mpr ⟨b, hb, hd⟩
  obtain ⟨d', hd', rfl⟩ := List.mem_map.mp hmem
  exact mem_unmarkedBackendHosts.mpr ⟨c', hc', d', hd', hzero, hhost⟩

/-- An unmarked backend is probed as the first Service reference with its host,
as long as no endpoint of that Service has the host of another reference. -/
theorem probedFate_eq (hc : c ∈ rules) (hb : b ∈ c.rule.backends.map core)
    (hzero : b.unavailableStatus = 0) (hhost : hostOf s.lib b.url = some host)
    (hfree : ∀ key ∈ (visitedRefs s routes grpcRoutes).find?
        (·.host s.lib s.clusterDomain = host),
      ∀ d ∈ headlessFate s.objects s.lib s.clusterDomain key b, d.unavailableStatus = 0 →
        hostOf s.lib d.url = some host ∨ ∀ k ∈ visitedRefs s routes grpcRoutes,
          hostOf s.lib d.url ≠ some (k.host s.lib s.clusterDomain)) :
    probedFate s routes grpcRoutes rules b =
      ((visitedRefs s routes grpcRoutes).find? (·.host s.lib s.clusterDomain = host)).elim [b]
        fun key => probeFate s key b := by
  have hauth : host ∈ unmarkedBackendHosts s.lib rules := by
    obtain ⟨b', hb', rfl⟩ := List.mem_map.mp hb
    exact mem_unmarkedBackendHosts.mpr ⟨c, hc, b', hb', hzero, hhost⟩
  let expanded := expandHeadlessBackends s.objects s.lib s.clusterDomain
    (s.preparedHTTPRoutes routes) (s.preparedGRPCRoutes grpcRoutes) rules
  have hheadless := isProbe_headlessFate s.objects s.lib s.clusterDomain
  have hzeros := isProbe_zeroEndpointFate s.objects s.lib s.clusterDomain
  have hexpand := run_authorizedServices hheadless hhost hauth hfree
  -- The second visit, on what the first one leaves.
  have hvisit : ∀ d ∈ Fate.run ((authorizedServices s.lib s.clusterDomain
        (visitedRefs s routes grpcRoutes) rules).map
          (headlessFate s.objects s.lib s.clusterDomain)) b,
      d.unavailableStatus = 0 → hostOf s.lib d.url = some host →
      Fate.run ((authorizedServices s.lib s.clusterDomain (visitedRefs s routes grpcRoutes)
        expanded).map (zeroEndpointFate s.objects s.lib s.clusterDomain)) d =
      ((visitedRefs s routes grpcRoutes).find? (·.host s.lib s.clusterDomain = host)).elim [d]
        fun key => zeroEndpointFate s.objects s.lib s.clusterDomain key d := by
    intro d hd hdzero hdhost
    refine run_authorizedServices hzeros hdhost (unmarkedHost_expanded s hc hb hd hdzero hdhost) ?_
    intro key _ d' hd' _
    rw [url_of_mem_zeroEndpointFate s hd']
    exact .inl hdhost
  change (Fate.run _ b).flatMap (Fate.run _) = _
  cases hfind : (visitedRefs s routes grpcRoutes).find? (·.host s.lib s.clusterDomain = host) with
  | none =>
    rw [hfind] at hexpand hvisit
    have hsecond := hvisit b (by rw [hexpand]; exact List.mem_singleton_self b) hzero hhost
    exact (congrArg (List.flatMap _) hexpand).trans ((List.flatMap_singleton _ _).trans hsecond)
  | some key =>
    rw [hfind] at hexpand hvisit
    refine (congrArg (List.flatMap _) hexpand).trans (List.flatMap_congr ?_)
    intro d hd
    by_cases hdzero : d.unavailableStatus = 0
    · rcases hfree key hfind d hd hdzero with hdhost | hnone
      · exact hvisit d (by rw [hexpand]; exact hd) hdzero hdhost
      · -- No reference has the host of this endpoint.
        rw [eq_singleton_of_host_ne (hzeros key) (hnone key (List.mem_of_find?_eq_some hfind))]
        refine run_map_eq_singleton ?_
        intro k hk
        exact eq_singleton_of_host_ne (hzeros k)
          (hnone k (List.mem_of_mem_filter (mem_of_mem_dedupBy hk).1))
    · rw [(probing_of_isProbe (hzeros key)).marked d hdzero]
      refine run_map_eq_singleton ?_
      intro k _
      exact (probing_of_isProbe (hzeros k)).marked d hdzero

end Probed

end TunnelGateway.EndpointProbes
