import TunnelGateway.ObjectOrder
import TunnelGateway.TrafficShares

/-!
Two builds from the same objects and routes. Only the order of the routes can
show: it is the order in which headless Services are expanded. As long as no
endpoint has the host of another Service and no weight is cut off, the weights of
a rule come out without a common divisor and in fixed proportion, so that the
order of the expansions does not matter either.
-/
namespace TunnelGateway.OrderIndependence

open GoText GatewayApi RouteSpec ProxyConfig ClusterObjects ServiceTarget RouteConversion
open BackendPasses FailedRefs BuildConfig FanOut BackendFate RouteOrigin RulePasses WeightShares
open EndpointProbes TrafficShares ObjectOrder DedupBy

section Conditions

/-- What a headless Service makes of the backend is not dialed at the host of
another Service. -/
def EndpointsFree (s : ProxySyncer) (refs : List ServiceKey) (b : Backend) : Prop :=
  ∀ key ∈ refs, ∀ d ∈ headlessFate s.objects s.lib s.clusterDomain key b,
    d.unavailableStatus = 0 → hostOf s.lib d.url = hostOf s.lib b.url ∨
      ∀ k ∈ refs, hostOf s.lib d.url ≠ some (k.host s.lib s.clusterDomain)

/-- References with one host name one Service. -/
def OneService (s : ProxySyncer) (refs : List ServiceKey) : Prop :=
  ∀ k ∈ refs, ∀ k' ∈ refs,
    k.host s.lib s.clusterDomain = k'.host s.lib s.clusterDomain → k = k'

variable (s : ProxySyncer) (set : RouteSet) (failedRefs grpcFailedRefs : List BackendRefError)

/-- No expansion meets what another one made. -/
structure Untangled : Prop where
  oneService : OneService s (visitedRefs s set.http set.grpc)
  endpointsFree : ∀ c ∈ marked s set failedRefs grpcFailedRefs,
    ∀ b ∈ c.rule.backends.map core, EndpointsFree s (visitedRefs s set.http set.grpc) b

end Conditions

section Weights

variable {backends : List Backend} {b : Backend}

theorem dvd_weightsGCD {d : ℤ} (h : ∀ b ∈ backends, d ∣ b.weight) : d ∣ weightsGCD backends := by
  have hfold : ∀ (l : List Backend) (start : ℕ), d ∣ start → (∀ b ∈ l, d ∣ b.weight) →
      d ∣ (l.foldl (fun divisor backend => Int.gcd divisor backend.weight) start : ℕ) := by
    intro l
    induction l with
    | nil => exact fun start hstart _ => hstart
    | cons b rest ih =>
      intro start hstart hall
      exact ih _ (Int.dvd_coe_gcd hstart (hall b List.mem_cons_self))
        fun b' hb' => hall b' (List.mem_cons_of_mem b hb')
  exact hfold backends 0 (dvd_zero d) h

/-- After the division nothing divides all weights. -/
theorem primitive_reduceWeightsByGCD (hb : b ∈ backends) (hpos : 0 < b.weight) :
    Primitive weightOf (reduceWeightsByGCD backends) := by
  have hdvd : ∀ b ∈ backends, (weightsGCD backends : ℤ) ∣ b.weight := (foldl_gcd_dvd backends 0).2
  have hne : (weightsGCD backends : ℤ) ≠ 0 := by
    intro hzero
    have hdiv := hdvd b hb
    rw [hzero] at hdiv
    omega
  intro d hd
  simp only [reduceWeightsByGCD] at hd
  split at hd
  · have hone : (weightsGCD backends : ℤ) = 1 := by omega
    exact isUnit_of_dvd_one (hone ▸ dvd_weightsGCD hd)
  · have hproduct : ∀ b ∈ backends, (weightsGCD backends) * d ∣ b.weight := by
      intro b hb
      have hquotient := hd _ (List.mem_map_of_mem hb)
      obtain ⟨m, hm⟩ := hdvd b hb
      rw [hm, Int.mul_tdiv_cancel_left m hne] at hquotient
      rw [hm]
      exact mul_dvd_mul_left _ hquotient
    have hself : (weightsGCD backends) * d ∣ weightsGCD backends * 1 := by
      rw [mul_one]
      exact dvd_weightsGCD hproduct
    exact isUnit_of_dvd_one ((mul_dvd_mul_iff_left hne).mp hself)

/-- The visit of a Service expands a backend of the rule. -/
def expandsAt (s : ProxySyncer) (key : ServiceKey) (rule : RouteRule) : Bool :=
  match headlessProbe s.objects key with
  | .expand endpoints =>
      !(endpoints.isEmpty || key.host s.lib s.clusterDomain = "") &&
        rule.backends.any (backendMatchesHeadless s.lib (key.host s.lib s.clusterDomain))
  | .nothing | .mark => false

variable {s : ProxySyncer} {key k : ServiceKey} {rule : RouteRule}

theorem expandsAt_iff :
    expandsAt s key rule = true ↔ ∃ endpoints, headlessProbe s.objects key = .expand endpoints ∧
      (endpoints.isEmpty || key.host s.lib s.clusterDomain = "") = false ∧
      ∃ b ∈ rule.backends,
        backendMatchesHeadless s.lib (key.host s.lib s.clusterDomain) b = true := by
  rw [expandsAt]
  cases headlessProbe s.objects key <;> simp

theorem primitive_headlessRule (h : expandsAt s key rule = true) :
    Primitive weightOf (headlessRule s.lib s.objects s.clusterDomain key rule).backends := by
  obtain ⟨endpoints, hprobe, hguard, b, hb, hmatch⟩ := expandsAt_iff.mp h
  have hne : endpoints ≠ [] := by
    intro hnil
    simp [hnil] at hguard
  have hany : rule.backends.any (backendMatchesHeadless s.lib (key.host s.lib s.clusterDomain)) =
      true := List.any_eq_true.mpr ⟨b, hb, hmatch⟩
  obtain ⟨copy, hcopy, hweight⟩ := exists_mem_expanded hb hmatch hne
  have hpos : 0 < b.weight := of_decide_eq_true (Bool.and_eq_true_iff.mp hmatch).2
  simp only [headlessRule, hprobe]
  rw [expandRule, hguard, expandRuleBackends, hany]
  exact primitive_reduceWeightsByGCD hcopy (hweight ▸ hpos)

/-- Marking adds no unmarked backend. -/
theorem mem_of_mem_markRule {target : String}
    (hb : b ∈ (markRule s.lib target statusServiceUnavailable rule).backends)
    (hzero : b.unavailableStatus = 0) : b ∈ rule.backends := by
  rw [markRule] at hb
  split at hb
  · exact hb
  · obtain ⟨b₀, hb₀, rfl⟩ := List.mem_map.mp hb
    rw [markBackend] at hzero ⊢
    split
    · rename_i hmark
      rw [if_pos hmark] at hzero
      cases hzero
    · exact hb₀

/-- A visit that expands nothing keeps the weights, and marks at most. -/
theorem headlessRule_of_not_expandsAt (h : expandsAt s key rule = false) :
    (headlessRule s.lib s.objects s.clusterDomain key rule).backends.map weightOf =
        rule.backends.map weightOf ∧
      ∀ b ∈ (headlessRule s.lib s.objects s.clusterDomain key rule).backends,
        b.unavailableStatus = 0 → b ∈ rule.backends := by
  rw [expandsAt] at h
  rw [headlessRule]
  cases hprobe : headlessProbe s.objects key with
  | nothing => exact ⟨rfl, fun _ hb _ => hb⟩
  | mark =>
    refine ⟨weights_markRule s _ _ rule, ?_⟩
    intro b hb hzero
    exact mem_of_mem_markRule hb hzero
  | expand endpoints =>
    have hsame : expandRule s.lib (key.host s.lib s.clusterDomain) endpoints rule = rule := by
      rw [hprobe] at h
      rw [expandRule]
      split
      · rfl
      · rename_i hguard
        rw [Bool.and_eq_false_iff, Bool.not_eq_false'] at h
        have hnone := h.resolve_left hguard
        rw [expandRuleBackends, hnone]
        rfl
    simp only [hsame]
    exact ⟨trivial, fun _ hb _ => hb⟩

variable {keys : List ServiceKey}

/-- What is once expanded stays without a common divisor. -/
theorem primitive_headlessRules (h : Primitive weightOf rule.backends) :
    Primitive weightOf (headlessRules s keys rule).backends := by
  induction keys generalizing rule with
  | nil => exact h
  | cons key rest ih =>
    refine ih ?_
    cases hexpands : expandsAt s key rule with
    | true => exact primitive_headlessRule hexpands
    | false => exact h.congr (headlessRule_of_not_expandsAt hexpands).1.symm

theorem expandsAt_of_unmarked {rule' : RouteRule}
    (h : ∀ b ∈ rule'.backends, b.unavailableStatus = 0 → b ∈ rule.backends)
    (hexpands : expandsAt s k rule' = true) : expandsAt s k rule = true := by
  obtain ⟨endpoints, hprobe, hguard, b, hb, hmatch⟩ := expandsAt_iff.mp hexpands
  obtain ⟨hunmarked, -⟩ := Bool.and_eq_true_iff.mp hmatch
  obtain ⟨hzero, -⟩ := Bool.and_eq_true_iff.mp hunmarked
  exact expandsAt_iff.mpr ⟨endpoints, hprobe, hguard, b, h b hb (of_decide_eq_true hzero), hmatch⟩

/-- Where no Service expands a backend of the rule none does later. -/
theorem weights_headlessRules (h : ∀ key ∈ keys, expandsAt s key rule = false) :
    (headlessRules s keys rule).backends.map weightOf = rule.backends.map weightOf := by
  induction keys generalizing rule with
  | nil => rfl
  | cons key rest ih =>
    obtain ⟨hweights, hunmarked⟩ := headlessRule_of_not_expandsAt (h key List.mem_cons_self)
    refine (ih ?_).trans hweights
    intro k hk
    have hnone := Bool.eq_false_iff.mp (h k (List.mem_cons_of_mem key hk))
    exact Bool.eq_false_iff.mpr (mt (expandsAt_of_unmarked hunmarked) hnone)

theorem rewrites_headlessRules (keys : List ServiceKey) (rule : RouteRule) :
    Rewrites (Fate.run (keys.map (headlessFate s.objects s.lib s.clusterDomain))) rule
      (headlessRules s keys rule) :=
  rewrites_visitRule (rewrites_headlessRule s.objects s.lib s.clusterDomain) keys rule

/-- The visit of a Service does not hide the backends of another one. -/
theorem expandsAt_headlessRule
    (hne : key.host s.lib s.clusterDomain ≠ k.host s.lib s.clusterDomain)
    (h : expandsAt s k rule = true) :
    expandsAt s k (headlessRule s.lib s.objects s.clusterDomain key rule) = true := by
  obtain ⟨endpoints, hprobe, hguard, b, hb, hmatch⟩ := expandsAt_iff.mp h
  obtain ⟨hunmarked, -⟩ := Bool.and_eq_true_iff.mp hmatch
  obtain ⟨-, hhost⟩ := Bool.and_eq_true_iff.mp hunmarked
  have hidle : headlessFate s.objects s.lib s.clusterDomain key (core b) = [core b] := by
    refine eq_singleton_of_host_ne (isProbe_headlessFate s.objects s.lib s.clusterDomain key) ?_
    intro hkey
    exact hne (Option.some.inj (hkey.symm.trans (of_decide_eq_true hhost)))
  have hmem : core b ∈ (headlessRule s.lib s.objects s.clusterDomain key
      rule).backends.map core := by
    rw [(rewrites_headlessRule s.objects s.lib s.clusterDomain key rule).backends]
    refine List.mem_flatMap.mpr ⟨core b, List.mem_map_of_mem hb, ?_⟩
    rw [hidle]
    exact List.mem_singleton_self _
  obtain ⟨b', hb', hcore⟩ := List.mem_map.mp hmem
  refine expandsAt_iff.mpr ⟨endpoints, hprobe, hguard, b', hb', ?_⟩
  rw [← backendMatchesHeadless_core, hcore, backendMatchesHeadless_core]
  exact hmatch

/-- A Service that expands a backend of the rule does so whenever its turn is. -/
theorem primitive_of_expandsAt (hk : k ∈ keys)
    (hhosts : ∀ k' ∈ keys, k'.host s.lib s.clusterDomain = k.host s.lib s.clusterDomain → k' = k)
    (h : expandsAt s k rule = true) : Primitive weightOf (headlessRules s keys rule).backends := by
  induction keys generalizing rule with
  | nil => cases hk
  | cons key rest ih =>
    by_cases heq : key = k
    · subst heq
      show Primitive weightOf (headlessRules s rest
        (headlessRule s.lib s.objects s.clusterDomain key rule)).backends
      exact primitive_headlessRules (primitive_headlessRule h)
    · have hrest : k ∈ rest := (List.mem_cons.mp hk).resolve_left fun hsame => heq hsame.symm
      refine ih hrest (fun k' hk' => hhosts k' (List.mem_cons_of_mem key hk')) ?_
      exact expandsAt_headlessRule (fun hsame => heq (hhosts key List.mem_cons_self hsame)) h

theorem eq_of_core_eq {b' : Backend} (hcore : core b = core b') (hweight : b.weight = b'.weight) :
    b = b' := by
  have hself : ∀ b : Backend, b = { core b with weight := b.weight } := fun _ => rfl
  rw [hself b, hself b', hcore, hweight]

/-- Two visits of the same Services, where the order does not matter to where a
backend goes. -/
theorem headlessRules_eq {keys' : List ServiceKey} (hmem : ∀ k, k ∈ keys ↔ k ∈ keys')
    (hhosts : ∀ k ∈ keys, ∀ k' ∈ keys,
      k.host s.lib s.clusterDomain = k'.host s.lib s.clusterDomain → k = k')
    (hsplit : ∀ b ∈ rule.backends, Split.run (keys.map (headlessSplit s)) (core b) =
      Split.run (keys'.map (headlessSplit s)) (core b)) (hfits : visitFits s keys rule = true)
    (hfits' : visitFits s keys' rule = true) :
    headlessRules s keys rule = headlessRules s keys' rule := by
  have hscales := scales_headlessRules s hfits
  have hscales' := (scales_headlessRules s hfits').congr fun b hb => (hsplit b hb).symm
  obtain ⟨hcores, c, hc, hproportional⟩ := Scales.proportional hscales hscales'
  have hweights : (headlessRules s keys rule).backends.map weightOf =
      (headlessRules s keys' rule).backends.map weightOf := by
    by_cases hexpands : ∃ k ∈ keys, expandsAt s k rule = true
    · obtain ⟨k, hk, hexpands⟩ := hexpands
      refine map_eq_of_primitive hc hproportional ?_ ?_
      · exact primitive_of_expandsAt hk (fun k' hk' => hhosts k' hk' k hk) hexpands
      · exact primitive_of_expandsAt ((hmem k).mp hk)
          (fun k' hk' => hhosts k' ((hmem k').mpr hk') k hk) hexpands
    · have hnone : ∀ k ∈ keys, expandsAt s k rule = false := by
        intro k hk
        exact Bool.eq_false_iff.mpr fun h => hexpands ⟨k, hk, h⟩
      rw [weights_headlessRules hnone,
        weights_headlessRules fun k hk => hnone k ((hmem k).mpr hk)]
  have hbackends := eq_of_map_eq (fun _ _ => eq_of_core_eq) hcores hweights
  rw [(rewrites_headlessRules keys rule).eq_with, (rewrites_headlessRules keys' rule).eq_with,
    hbackends]

end Weights

section Visits

variable {s : ProxySyncer} {refs refs' : List ServiceKey} {rules : List ConvertedRule}

/-- The Service that an unmarked backend is probed as. -/
def probedBy (s : ProxySyncer) (refs : List ServiceKey) (b : Backend) : Option ServiceKey :=
  if b.unavailableStatus = 0 then
    (hostOf s.lib b.url).bind fun host => refs.find? (·.host s.lib s.clusterDomain = host)
  else none

theorem actsAlone_probedBy {c : ConvertedRule} (hc : c ∈ rules) {b : Backend}
    (hb : b ∈ c.rule.backends.map core) (hfree : EndpointsFree s refs b) :
    ActsAlone (headlessFate s.objects s.lib s.clusterDomain)
      (visitedServices s refs rules) b (probedBy s refs b) := by
  have hprobe := isProbe_headlessFate s.objects s.lib s.clusterDomain
  rw [probedBy]
  split
  · rename_i hzero
    cases hhost : hostOf s.lib b.url with
    | none =>
      intro key _
      refine eq_singleton_of_host_ne (hprobe key) ?_
      rw [hhost]
      exact fun h => nomatch h
    | some host =>
      have hauth : host ∈ unmarkedBackendHosts s.lib rules := by
        obtain ⟨b', hb', rfl⟩ := List.mem_map.mp hb
        exact mem_unmarkedBackendHosts.mpr ⟨c, hc, b', hb', hzero, hhost⟩
      refine actsAlone_authorizedServices hprobe hhost hauth ?_
      intro key hkey d hd hdzero
      rw [← hhost]
      exact hfree key (List.mem_of_find?_eq_some hkey) d hd hdzero
  · rename_i hmarked
    intro key _
    exact (probing_of_isProbe (hprobe key)).marked b hmarked

variable (hperm : refs.Perm refs') (hone : OneService s refs)

include hperm hone

theorem find?_host_eq (host : String) :
    refs.find? (·.host s.lib s.clusterDomain = host) =
      refs'.find? (·.host s.lib s.clusterDomain = host) := by
  refine find?_eq_of_perm hperm ?_
  intro k hk k' hk' h h'
  exact hone k hk k' hk' ((of_decide_eq_true h).trans (of_decide_eq_true h').symm)

theorem mem_visitedServices_iff (k : ServiceKey) :
    k ∈ visitedServices s refs rules ↔
      k ∈ visitedServices s refs' rules := by
  rw [mem_authorizedServices, mem_authorizedServices, find?_host_eq hperm hone]

/-- The order of the references does not show in the expanded rules. -/
theorem headlessRules_visitedServices_eq {c : ConvertedRule} (hc : c ∈ rules)
    (hfree : ∀ b ∈ c.rule.backends.map core, EndpointsFree s refs b)
    (hfits : visitFits s (visitedServices s refs rules) c.rule = true)
    (hfits' : visitFits s (visitedServices s refs' rules) c.rule = true) :
    headlessRules s (visitedServices s refs rules) c.rule =
      headlessRules s (visitedServices s refs' rules) c.rule := by
  refine headlessRules_eq (mem_visitedServices_iff hperm hone) ?_ ?_ hfits hfits'
  · intro k hk k' hk' hhost
    exact hone k (List.mem_of_mem_filter (mem_of_mem_dedupBy hk).1) k'
      (List.mem_of_mem_filter (mem_of_mem_dedupBy hk').1) hhost
  · intro b hb
    have hmem := List.mem_map_of_mem (f := core) hb
    have hfree' : EndpointsFree s refs' (core b) := by
      intro key hkey d hd hzero
      refine (hfree _ hmem key (hperm.mem_iff.mpr hkey) d hd hzero).imp_right ?_
      exact fun hnone k hk => hnone k (hperm.mem_iff.mpr hk)
    have hprobed : probedBy s refs (core b) = probedBy s refs' (core b) := by
      simp [probedBy, find?_host_eq hperm hone]
    have hrun := Split.run_evenly_of_actsAlone nodup_dedupBy
      (actsAlone_probedBy hc hmem (hfree _ hmem))
    have hrun' := Split.run_evenly_of_actsAlone nodup_dedupBy
      (actsAlone_probedBy hc hmem hfree')
    rw [hprobed] at hrun
    exact hrun.trans hrun'.symm

theorem mapRules_probedRule_eq
    (hfree : ∀ c ∈ rules, ∀ b ∈ c.rule.backends.map core, EndpointsFree s refs b)
    (hfits : ∀ c ∈ rules,
      visitFits s (visitedServices s refs rules) c.rule = true)
    (hfits' : ∀ c ∈ rules,
      visitFits s (visitedServices s refs' rules) c.rule = true) :
    mapRules (probedRule s refs rules) rules = mapRules (probedRule s refs' rules) rules := by
  have hheadless : ∀ c ∈ rules,
      headlessRules s (visitedServices s refs rules) c.rule =
        headlessRules s (visitedServices s refs' rules) c.rule :=
    fun c hc => headlessRules_visitedServices_eq hperm hone hc (hfree c hc) (hfits c hc)
      (hfits' c hc)
  have hexpanded : mapRules (headlessRules s (visitedServices s refs rules))
      rules = mapRules (headlessRules s (visitedServices s refs' rules))
        rules := by
    refine List.map_congr_left ?_
    intro c hc
    rw [hheadless c hc]
  have hzeros : ∀ expanded rule,
      zeroEndpointRules s (visitedServices s refs expanded) rule =
        zeroEndpointRules s (visitedServices s refs' expanded) rule :=
    fun expanded rule =>
      visitRule_eq_of_perm (zeroEndpointRule_comm s.lib s.objects s.clusterDomain)
        ((List.perm_ext_iff_of_nodup nodup_dedupBy nodup_dedupBy).mpr
          (mem_visitedServices_iff hperm hone)) rule
  refine List.map_congr_left ?_
  intro c hc
  simp [probedRule, hzeros, hexpanded, hheadless c hc]

end Visits

section Builds

/-- The digest of the marshalled configuration, with the version counter zeroed. -/
def hashProxyConfig (digest : Config → String) (cfg : BuiltConfig) : String :=
  digest { cfg.config with version := 0 }

variable (s : ProxySyncer) (set : RouteSet) (failedRefs grpcFailedRefs : List BackendRefError)

/-- No expansion of the build cuts a weight off. -/
def CutsNothing : Prop :=
  ∀ c ∈ marked s set failedRefs grpcFailedRefs,
    visitFits s (visited s set failedRefs grpcFailedRefs) c.rule = true

variable {s set failedRefs grpcFailedRefs} {objects' : Objects}
  (hsame : ReorderedObjects s.objects objects') (hnames : ObjectsNamedApart s.objects)

include hsame hnames

theorem probedRule_eq_of_reordered :
    probedRule { s with objects := objects' } = probedRule s := by
  have hheadless : headlessRules { s with objects := objects' } = headlessRules s := by
    funext keys rule
    simp [headlessRules, visitRule, headlessRule_eq hsame hnames]
  have hzeros : zeroEndpointRules { s with objects := objects' } = zeroEndpointRules s := by
    funext keys rule
    simp [zeroEndpointRules, visitRule, zeroEndpointRule_eq hsame hnames]
  funext refs rules rule
  simp [probedRule, hheadless, hzeros, externalRule_eq hsame hnames]

theorem visitFits_eq_of_reordered (keys : List ServiceKey) (rule : RouteRule) :
    visitFits { s with objects := objects' } keys rule = visitFits s keys rule := by
  induction keys generalizing rule with
  | nil => rfl
  | cons key rest ih =>
    simp [visitFits, serviceFits, ih, headlessRule_eq hsame hnames,
      headlessProbe_eq hsame hnames]

end Builds

section Fixtures

def headlessService (name : String) : Service :=
  ⟨.of "shop" name, .other "ClusterIP", clusterIPNone, [httpPort]⟩

def readySlice (service address : String) (port : ℤ) : EndpointSlice :=
  ⟨"shop", service, [⟨some "http", some port⟩], [⟨[address], some true⟩]⟩

/-- Two headless Services; the endpoint of the first one is at this address. -/
def twinSyncer (address : String) (port : ℤ) : ProxySyncer where
  objects :=
    { gateways := []
      listenerSets := []
      gatewayClasses := []
      namespaces := []
      labelSelectorAsSelector := fun _ => none
      services := [headlessService "a", headlessService "b"]
      endpointSlices := [readySlice "a" address port, readySlice "b" "10.0.0.2" 8080]
      parsesCABundle := fun _ => true
      x509KeyPair := fun _ _ => true }
  lib := .literal
  clusterDomain := "local"
  controllerName := "example.com/tunnel"

def routeTo (service : String) (created : ℤ) : HTTPRoute :=
  ⟨.of "shop" service, created, [], [], [{ backendRefs := [{ name := service }] }]⟩

def urlsOf (cfg : BuiltConfig) : List (List String) :=
  cfg.config.rules.map fun rule => rule.backends.map fun b => b.url

def twinRoutes : RouteSet :=
  ⟨[routeTo "a" 1, routeTo "b" 2], [], by decide, List.nodup_nil⟩

def twinRoutesSwapped : RouteSet :=
  ⟨[routeTo "b" 2, routeTo "a" 1], [], by decide, List.nodup_nil⟩

/-- The objects as another list call returns them. -/
def twinObjectsSwapped : Objects :=
  { (twinSyncer "10.0.0.1" 8080).objects with
    services := [headlessService "b", headlessService "a"]
    endpointSlices := [readySlice "b" "10.0.0.2" 8080, readySlice "a" "10.0.0.1" 8080] }

theorem twin_reordered :
    ReorderedObjects (twinSyncer "10.0.0.1" 8080).objects twinObjectsSwapped where
  cluster := ⟨.refl _, .refl _, .refl _, .refl _, rfl⟩
  secrets := .refl _
  referenceGrants := .refl _
  services := .swap _ _ _
  endpointSlices := .swap _ _ _
  serviceImports := .refl _
  externalBackends := .refl _
  configMaps := .refl _
  backendTLSPolicies := .refl _
  parsesCABundle := rfl
  x509KeyPair := rfl

theorem twin_namedApart : ObjectsNamedApart (twinSyncer "10.0.0.1" 8080).objects where
  cluster := ⟨List.nodup_nil, List.nodup_nil, List.nodup_nil, List.nodup_nil⟩
  secrets := List.nodup_nil
  services := by decide
  externalBackends := List.nodup_nil
  configMaps := List.nodup_nil
  backendTLSPolicies := List.nodup_nil

instance (s : ProxySyncer) (refs : List ServiceKey) : Decidable (OneService s refs) :=
  inferInstanceAs (Decidable (∀ k ∈ refs, ∀ k' ∈ refs, _ → k = k'))

instance (s : ProxySyncer) (refs : List ServiceKey) (b : Backend) :
    Decidable (EndpointsFree s refs b) :=
  inferInstanceAs (Decidable (∀ key ∈ refs, ∀ d ∈ _, _ → _ ∨ ∀ k ∈ refs, _))

def joinedURLs (cfg : Config) : String :=
  String.join (cfg.rules.flatMap fun rule => rule.backends.map fun b => b.url)

end Fixtures

end TunnelGateway.OrderIndependence
