import TunnelGateway.FailClosed
import TunnelGateway.RulePasses
import TunnelGateway.WeightShares

/-!
Traffic fractions through the build. Expanding a headless Service multiplies the
weights of the other backends of a rule by the number of endpoints and divides
all of them by their common divisor; as long as no product is cut off at the
largest `int32`, what stands for a backend reference keeps its share of the
rule's traffic.
-/
namespace TunnelGateway.TrafficShares

open GoText GatewayApi RouteSpec ProxyConfig ClusterObjects ServiceTarget RouteConversion
open BackendPasses FailedRefs BuildConfig FanOut BackendFate RouteOrigin RulePasses WeightShares
open EndpointProbes FailClosed BackendAuthorization EffectiveHostnames

abbrev weightOf (b : Backend) : ℤ := b.weight

/-- The rule's backends are split and their weights multiplied alike. -/
abbrev ScalesRule (f : Split Backend) (rule rule' : RouteRule) : Prop :=
  Scales core weightOf f rule.backends rule'.backends

section Passes

theorem core_withWeight {b : Backend} {weight : ℤ} (h : weight.sign = b.weight.sign) :
    core { b with weight := weight } = core b := by
  simp [core, h]

variable (lib : GoLib)

theorem weight_resolveExternalBackend (objects : Objects) (b : Backend) :
    (resolveExternalBackend lib objects b).weight = b.weight := by
  unfold resolveExternalBackend failBackend
  repeat' split
  all_goals rfl

theorem scales_markRule (target : String) (status : ℤ) (rule : RouteRule) :
    ScalesRule (.evenly (markFate lib target status)) rule (markRule lib target status rule) := by
  have hbackends : (markRule lib target status rule).backends =
      rule.backends.map fun b => if target = "" then b else markBackend lib target status b := by
    rw [markRule]
    split
    · exact (List.map_id _).symm
    · rfl
  rw [ScalesRule, hbackends]
  apply scales_map
  · intro b
    split
    · rfl
    · exact core_markBackend lib target status b
  · intro b
    split
    · rfl
    · exact weight_markBackend lib target status b

/-- Dividing by the common divisor divides every weight by one number. -/
theorem exists_divisor (backends : List Backend) :
    ∃ k : ℚ, 0 < k ∧ (reduceWeightsByGCD backends).map (weighed core fun b => b.weight) =
      backends.map fun b => (core b, (b.weight : ℚ) / k) := by
  have hdvd : ∀ b ∈ backends, (weightsGCD backends : ℤ) ∣ b.weight := (foldl_gcd_dvd backends 0).2
  simp only [reduceWeightsByGCD]
  split
  · refine ⟨1, one_pos, ?_⟩
    simp [weighed]
  · have hpos : (0 : ℤ) < weightsGCD backends := by omega
    have hne : ((weightsGCD backends : ℤ) : ℚ) ≠ 0 := by exact_mod_cast hpos.ne'
    refine ⟨(weightsGCD backends : ℤ), by exact_mod_cast hpos, ?_⟩
    rw [List.map_map]
    refine List.map_congr_left ?_
    intro b hb
    have hsign := sign_tdiv_of_dvd hpos (hdvd b hb)
    obtain ⟨m, hm⟩ := hdvd b hb
    have hquotient : b.weight.tdiv (weightsGCD backends) = m := by
      rw [hm, Int.mul_tdiv_cancel_left m hpos.ne']
    refine Prod.ext (core_withWeight hsign) ?_
    show ((b.weight.tdiv (weightsGCD backends)) : ℚ) = _
    rw [hquotient, hm, Int.cast_mul]
    field_simp

/-- No sibling of an expanded backend is cut off. -/
def fits (target : String) (endpoints : List ResolvedEndpoint) (rule : RouteRule) : Bool :=
  !rule.backends.any (backendMatchesHeadless lib target) || rule.backends.all fun b =>
    backendMatchesHeadless lib target b || b.weight * endpoints.length ≤ maxInt32

theorem scaleWeight_of_le {weight scale : ℤ} (h : weight * scale ≤ maxInt32) :
    scaleWeight weight scale = weight * scale :=
  if_neg (not_lt.mpr h)

theorem evenly_unchanged : Split.evenly (Fate.unchanged : Fate Backend) = Split.whole := by
  funext b
  simp [Split.evenly, Fate.unchanged, Split.whole]

variable {endpoints : List ResolvedEndpoint} {rule : RouteRule}

/-- One backend of an expanded rule, before the division. -/
theorem weighed_expanded (target : String) (hne : endpoints ≠ []) {k : ℚ} {b : Backend}
    (hfits : backendMatchesHeadless lib target b = false →
      b.weight * endpoints.length ≤ maxInt32) :
    (if backendMatchesHeadless lib target b then endpointBackends lib endpoints b
      else [{ b with weight := scaleWeight b.weight endpoints.length }]).map
        (fun d => (core d, (d.weight : ℚ) / k)) =
      (Split.evenly (fun d => if backendMatchesHeadless lib target d then
        endpointBackends lib endpoints d else [d]) (core b)).map
          fun p => (p.1, endpoints.length / k * p.2 * b.weight) := by
  have hlength : (endpoints.length : ℚ) ≠ 0 := by
    exact_mod_cast (List.length_pos_of_ne_nil hne).ne'
  rw [Split.evenly, backendMatchesHeadless_core, List.map_map]
  split
  · simp only [endpointBackends, List.map_map, List.length_map]
    refine List.map_congr_left ?_
    intro ep _
    simp only [Function.comp_apply, core]
    field_simp
  · rename_i hmatch
    have hpos : (0 : ℤ) < endpoints.length := by
      have := List.length_pos_of_ne_nil hne
      omega
    have hscaled := scaleWeight_of_le (hfits (Bool.eq_false_iff.mpr hmatch))
    rw [List.map_singleton, List.map_singleton, core_withWeight (sign_scaleWeight hpos), hscaled]
    simp only [Function.comp_apply, List.length_singleton, List.cons.injEq, Prod.mk.injEq,
      true_and, and_true]
    push_cast
    ring

theorem scales_expandRuleBackends (target : String) (hne : endpoints ≠ [])
    (hfits : fits lib target endpoints rule = true) :
    ScalesRule (.evenly fun b => if backendMatchesHeadless lib target b then
      endpointBackends lib endpoints b else [b]) rule
      (expandRuleBackends lib target endpoints rule) := by
  rw [expandRuleBackends]
  split
  · rename_i hnone
    refine ⟨1, one_pos, ?_⟩
    rw [List.map_eq_flatMap]
    refine List.flatMap_congr ?_
    intro b hb
    have hmatch : backendMatchesHeadless lib target b = false := by
      simp only [Bool.not_eq_true', List.any_eq_false] at hnone
      exact Bool.eq_false_iff.mpr (hnone b hb)
    simp [Split.evenly, backendMatchesHeadless_core, hmatch, weighed]
  · rename_i hsome
    rw [fits, Bool.or_eq_true, List.all_eq_true] at hfits
    have hall := hfits.resolve_left hsome
    obtain ⟨k, hk, hreduced⟩ := exists_divisor (rule.backends.flatMap fun backend =>
      if backendMatchesHeadless lib target backend then endpointBackends lib endpoints backend
      else [{ backend with weight := scaleWeight backend.weight endpoints.length }])
    have hlength : (0 : ℚ) < endpoints.length := by
      exact_mod_cast List.length_pos_of_ne_nil hne
    refine ⟨endpoints.length / k, div_pos hlength hk, ?_⟩
    rw [hreduced, List.map_flatMap]
    refine List.flatMap_congr ?_
    intro b hb
    apply weighed_expanded lib target hne
    intro hmatch
    have hb' := hall b hb
    rw [hmatch] at hb'
    exact of_decide_eq_true hb'

theorem scales_expandRule (target : String) (hfits : fits lib target endpoints rule = true) :
    ScalesRule (.evenly (expandFate lib target endpoints)) rule
      (expandRule lib target endpoints rule) := by
  rw [expandRule]
  split
  · rename_i hempty
    have hfate : expandFate lib target endpoints = Fate.unchanged := by
      funext b
      exact if_pos hempty
    rw [hfate, evenly_unchanged]
    exact Scales.refl core _ rule.backends
  · rename_i hnonempty
    have hfate : expandFate lib target endpoints = fun b =>
        if backendMatchesHeadless lib target b then endpointBackends lib endpoints b else [b] := by
      funext b
      exact if_neg hnonempty
    have hne : endpoints ≠ [] := by
      intro hnil
      simp [hnil] at hnonempty
    rw [hfate]
    exact scales_expandRuleBackends lib target hne hfits

end Passes

section Visits

variable (s : ProxySyncer)

/-- The visit of a Service cuts no weight of the rule off. -/
def serviceFits (key : ServiceKey) (rule : RouteRule) : Bool :=
  match headlessProbe s.objects key with
  | .expand endpoints => fits s.lib (key.host s.lib s.clusterDomain) endpoints rule
  | .nothing | .mark => true

/-- None of the visits does, each in the state it finds the rule in. -/
def visitFits : List ServiceKey → RouteRule → Bool
  | [], _ => true
  | key :: rest, rule =>
      serviceFits s key rule &&
        visitFits rest (headlessRule s.lib s.objects s.clusterDomain key rule)

theorem visitFits_append (first second : List ServiceKey) (rule : RouteRule) :
    visitFits s (first ++ second) rule =
      (visitFits s first rule && visitFits s second (headlessRules s first rule)) := by
  induction first generalizing rule with
  | nil => rfl
  | cons key rest ih =>
    rw [List.cons_append, visitFits, visitFits, ih, Bool.and_assoc]
    rfl

def headlessSplit (key : ServiceKey) : Split Backend :=
  .evenly (headlessFate s.objects s.lib s.clusterDomain key)

def zeroEndpointSplit (key : ServiceKey) : Split Backend :=
  .evenly (zeroEndpointFate s.objects s.lib s.clusterDomain key)

variable {rule : RouteRule}

theorem scales_headlessRule {key : ServiceKey} (hfits : serviceFits s key rule = true) :
    ScalesRule (headlessSplit s key) rule
      (headlessRule s.lib s.objects s.clusterDomain key rule) := by
  rw [headlessSplit, headlessFate_eq, headlessRule]
  rw [serviceFits] at hfits
  cases hprobe : headlessProbe s.objects key with
  | nothing =>
    rw [evenly_unchanged]
    exact Scales.refl core _ rule.backends
  | expand endpoints =>
    rw [hprobe] at hfits
    exact scales_expandRule s.lib _ hfits
  | mark => exact scales_markRule s.lib _ _ rule

theorem scales_zeroEndpointRule (key : ServiceKey) (rule : RouteRule) :
    ScalesRule (zeroEndpointSplit s key) rule
      (zeroEndpointRule s.lib s.objects s.clusterDomain key rule) := by
  rw [zeroEndpointSplit, zeroEndpointFate_eq, zeroEndpointRule]
  split
  · exact scales_markRule s.lib _ _ rule
  · rw [evenly_unchanged]
    exact Scales.refl core _ rule.backends

/-- A visit that scales the rule at every key scales it. -/
theorem scales_visitRule {κ : Type} {step : κ → RouteRule → RouteRule} {split : κ → Split Backend}
    {keys : List κ} (h : ∀ before key after, keys = before ++ key :: after →
      ScalesRule (split key) (visitRule step before rule)
        (step key (visitRule step before rule))) :
    ScalesRule (.run (keys.map split)) rule (visitRule step keys rule) := by
  induction keys using List.reverseRecOn with
  | nil => exact Scales.refl core _ rule.backends
  | append_singleton keys key ih =>
    have hfirst := ih fun before key' after heq =>
      h before key' (after ++ [key]) (by rw [heq, List.append_assoc, List.cons_append])
    rw [List.map_append, Split.run, List.foldl_append, visitRule,
      List.foldl_append]
    exact hfirst.trans (h keys key [] rfl)

theorem scales_headlessRules {keys : List ServiceKey} (hfits : visitFits s keys rule = true) :
    ScalesRule (.run (keys.map (headlessSplit s))) rule (headlessRules s keys rule) := by
  apply scales_visitRule
  intro before key after heq
  rw [heq, visitFits_append, visitFits, Bool.and_eq_true, Bool.and_eq_true] at hfits
  exact scales_headlessRule s hfits.2.1

theorem scales_zeroEndpointRules (keys : List ServiceKey) (rule : RouteRule) :
    ScalesRule (.run (keys.map (zeroEndpointSplit s))) rule (zeroEndpointRules s keys rule) :=
  scales_visitRule fun _ key _ _ => scales_zeroEndpointRule s key _

def failedSplit (refs : List BackendRefError) : Split Backend :=
  .run (refs.map fun ref => .evenly (markFate s.lib (s.failedHost ref) statusInternalServerError))

theorem scales_failedRule (refs : List BackendRefError) (rule : RouteRule) :
    ScalesRule (failedSplit s refs) rule (failedRule s refs rule) :=
  scales_visitRule fun _ ref _ _ => scales_markRule s.lib (s.failedHost ref) _ _

end Visits

section Build

variable (s : ProxySyncer) (set : RouteSet) (failedRefs grpcFailedRefs : List BackendRefError)

/-- The rules once the failed references are marked. -/
abbrev marked : List ConvertedRule :=
  s.markedRules set.http set.grpc failedRefs grpcFailedRefs

/-- The Services the expansion visits. -/
def visited : List ServiceKey :=
  visitedServices s (visitedRefs s set.http set.grpc) (marked s set failedRefs grpcFailedRefs)

/-- The Services that are looked at for endpoints afterwards. -/
def probed : List ServiceKey :=
  visitedServices s (visitedRefs s set.http set.grpc)
    (mapRules (headlessRules s (visited s set failedRefs grpcFailedRefs))
      (marked s set failedRefs grpcFailedRefs))

def buildSplit (kind : RouteKind) : Split Backend :=
  (((failedSplit s (appliedRefs set.grpc failedRefs grpcFailedRefs kind)).andThen
    ((Split.run ((visited s set failedRefs grpcFailedRefs).map (headlessSplit s))).andThen
      (.run ((probed s set failedRefs grpcFailedRefs).map (zeroEndpointSplit s))))).andThen
    (.evenly (externalFate s.lib s.objects)))

theorem fate_evenly_run {κ : Type} (fate : κ → Fate Backend) (keys : List κ) :
    (Split.run (keys.map fun key => Split.evenly (fate key))).fate = Fate.run (keys.map fate) := by
  rw [Split.fate_run, List.map_map]
  congr 1
  refine List.map_congr_left ?_
  intro key _
  exact Split.fate_evenly (fate key)

theorem fate_buildSplit (kind : RouteKind) :
    (buildSplit s set failedRefs grpcFailedRefs kind).fate =
      buildFate s set.http set.grpc failedRefs grpcFailedRefs kind := by
  have hheadless : (Split.run ((visited s set failedRefs grpcFailedRefs).map
      (headlessSplit s))).fate = _ := fate_evenly_run _ _
  have hzero : (Split.run ((probed s set failedRefs grpcFailedRefs).map
      (zeroEndpointSplit s))).fate = _ := fate_evenly_run _ _
  have hfailed : (failedSplit s (appliedRefs set.grpc failedRefs grpcFailedRefs kind)).fate = _ :=
    fate_evenly_run _ _
  rw [buildSplit, Split.fate_andThen, Split.fate_andThen, Split.fate_andThen, hheadless, hzero,
    hfailed, buildFate, probedFate]
  simp only [expandHeadlessBackends_eq]
  rfl

theorem exact_run_evenly {κ : Type} {fate : κ → Fate Backend}
    (h : ∀ key, KeepsTransport (fate key)) (keys : List κ) :
    (Split.run (keys.map fun key => Split.evenly (fate key))).Exact := by
  apply Split.exact_run
  intro f hf
  obtain ⟨key, -, rfl⟩ := List.mem_map.mp hf
  exact Split.exact_evenly (h key).ne_nil

/-- Every pass leaves something of every backend. -/
theorem exact_buildSplit (kind : RouteKind) :
    (buildSplit s set failedRefs grpcFailedRefs kind).Exact := by
  have hpasses := keepsTransport_passes s
  have hfailed : (failedSplit s (appliedRefs set.grpc failedRefs grpcFailedRefs kind)).Exact :=
    exact_run_evenly (fun _ => hpasses.mark _ _) _
  have hheadless : (Split.run ((visited s set failedRefs grpcFailedRefs).map
      (headlessSplit s))).Exact :=
    exact_run_evenly (fun key => hpasses.probe (isProbe_headlessFate s.objects s.lib _ key)) _
  have hzero : (Split.run ((probed s set failedRefs grpcFailedRefs).map
      (zeroEndpointSplit s))).Exact :=
    exact_run_evenly (fun key => hpasses.probe (isProbe_zeroEndpointFate s.objects s.lib _ key)) _
  exact (hfailed.andThen (hheadless.andThen hzero)).andThen
    (Split.exact_evenly hpasses.external.ne_nil)

/-- A converted rule and the rule it is built to. -/
theorem scales_built {c : ConvertedRule} (version : ℤ)
    (hc : c ∈ (s.buildProxyConfig version set.http set.grpc failedRefs grpcFailedRefs).rules)
    (hfits : ∀ m ∈ marked s set failedRefs grpcFailedRefs, m.provenance = c.provenance →
      visitFits s (visited s set failedRefs grpcFailedRefs) m.rule = true) :
    ∃ c₀ ∈ convertedRules s set.http set.grpc, c₀.provenance = c.provenance ∧
      ScalesRule (buildSplit s set failedRefs grpcFailedRefs c.provenance.kind) c₀.rule c.rule := by
  rw [rules_buildProxyConfig] at hc
  obtain ⟨m, hm, rfl⟩ := List.mem_map.mp hc
  have hfit := hfits m hm rfl
  rw [markedRules_eq] at hm
  obtain ⟨c₀, hc₀, rfl⟩ := List.mem_map.mp hm
  refine ⟨c₀, hc₀, rfl, ?_⟩
  have hmarked := scales_failedRule s
    (appliedRefs set.grpc failedRefs grpcFailedRefs c₀.provenance.kind) c₀.rule
  exact (hmarked.trans ((scales_headlessRules s hfit).trans
    (scales_zeroEndpointRules s _ _))).trans
      (scales_map (core_resolveExternalBackend s.lib s.objects)
        (weight_resolveExternalBackend s.lib s.objects) _)

end Build

section References

variable {b : Backend} {ns : String}

theorem weight_markInvalidBackend {weight : ℤ} {name : String} {port : ℤ} {domain : String}
    (h : markInvalidBackend weight name ns port domain = some b) : b.weight = weight := by
  rw [markInvalidBackend] at h
  split at h
  · cases h
  · cases h
    rfl

variable {lib : GoLib} {clientCert : Option ClientCertConfig} {resolvers : Resolvers}

variable (s : ProxySyncer)

/-- The weight a reference declares. -/
def declared (ref : AnyRef) : ℤ := refWeight ref.toBackendRef

theorem weight_convert {ref : AnyRef} (h : ref.convert s ns clientCert = some b) :
    b.weight = declared ref := by
  cases ref with
  | http ref =>
    cases origin_of_convertBackendRef h with
    | invalid hmark => exact weight_markInvalidBackend hmark
    | external => rfl
    | service => rfl
  | grpc ref =>
    cases origin_of_convertGRPCBackendRef h with
    | invalid hmark => exact weight_markInvalidBackend hmark
    | external => rfl
    | service =>
      simp only [applyGRPCBackendTransport]
      split_ifs <;> rfl

theorem declared_of_dropped {ref : AnyRef} (h : ref.convert s ns clientCert = none) :
    declared ref ≤ 0 := by
  have hconversion := ref.conversion s ns clientCert
  rw [h] at hconversion
  cases hconversion with
  | nothing hweight => exact hweight

end References

section Shares

variable (s : ProxySyncer) (set : RouteSet) (failedRefs grpcFailedRefs : List BackendRefError)

/-- What stands for a reference in the built rule; a reference that is refused is
answered without being dialed. -/
structure StandsFor (routeNS : String) (ref : AnyRef) (group : List Backend) : Prop where
  derived : ∃ ref' clientCert, AnyRef.Alike ref ref' ∧
    group.map core = (ref'.convert s routeNS clientCert).toList.flatMap fun b =>
      buildFate s set.http set.grpc failedRefs grpcFailedRefs ref.kind (core b)
  refused : ¬ Admitted (s.resolvers ref.kind) ref.target routeNS →
    ∀ b ∈ group, b.unavailableStatus ≠ 0

variable {ref : AnyRef} {α β : Type*} {as : List α} {bs : List β} {R : α → β → Prop}
  {route : AnyRoute} {i : ℕ}

theorem standsFor_of_alike {routeNS : String} {clientCert : Option ClientCertConfig}
    {ref' : AnyRef} (halike : AnyRef.Alike ref ref') {group : List Backend}
    (hgroup : (ref'.convert s routeNS clientCert = none ∧ group = []) ∨
      ∃ b, ref'.convert s routeNS clientCert = some b ∧
        group.map core = buildFate s set.http set.grpc failedRefs grpcFailedRefs ref.kind (core b)) :
    StandsFor s set failedRefs grpcFailedRefs routeNS ref group := by
  have htarget : ref'.target = ref.target :=
    congrArg RouteSpec.BackendRef.toBackendObjectReference halike.backendRef
  rcases hgroup with ⟨hnone, rfl⟩ | ⟨b, hsome, hmap⟩
  · refine ⟨⟨ref', clientCert, halike, ?_⟩, fun _ b hb => nomatch hb⟩
    rw [hnone]
    rfl
  · refine ⟨⟨ref', clientCert, halike, ?_⟩, ?_⟩
    · rw [hsome, hmap]
      exact (List.flatMap_singleton _ _).symm
    · intro hrefused d hd
      have hconversion := ref'.conversion s routeNS clientCert
      rw [hsome, halike.kind] at hconversion
      have hmarked : b.unavailableStatus ≠ 0 := by
        cases hconversion with
        | invalid _ hstatus =>
          rw [hstatus]
          decide
        | backend hadmitted =>
          refine absurd ?_ hrefused
          rw [← htarget]
          exact hadmitted
      have hmem : core d ∈ buildFate s set.http set.grpc failedRefs grpcFailedRefs ref.kind
          (core b) := by
        rw [← hmap]
        exact List.mem_map_of_mem hd
      exact (neverRevives_passes s).build set.http set.grpc failedRefs grpcFailedRefs ref.kind
        (core b) hmarked (core d) hmem

theorem forall₂_comp {γ : Type*} {S : β → γ → Prop} {cs : List γ} (h : List.Forall₂ R as bs)
    (h' : List.Forall₂ S bs cs) : List.Forall₂ (fun a c => ∃ b, R a b ∧ S b c) as cs := by
  induction h generalizing cs with
  | nil =>
    cases h'
    exact .nil
  | cons hhead _ ih =>
    cases h' with
    | cons hhead' htail' => exact .cons ⟨_, hhead, hhead'⟩ (ih htail')

theorem forall₂_mem (h : List.Forall₂ R as bs) :
    List.Forall₂ (fun a b => a ∈ as ∧ R a b) as bs := by
  induction h with
  | nil => exact .nil
  | cons hhead _ ih =>
    refine .cons ⟨List.mem_cons_self, hhead⟩ (ih.imp ?_)
    rintro a b ⟨hmem, hrel⟩
    exact ⟨List.mem_cons_of_mem _ hmem, hrel⟩

theorem kind_of_mem_ruleRefs (h : ref ∈ ruleRefs route i) : ref.kind = route.kind := by
  cases route with
  | http route =>
    obtain ⟨found, -, rfl⟩ := List.mem_map.mp h
    rfl
  | grpc route =>
    obtain ⟨found, -, rfl⟩ := List.mem_map.mp h
    rfl

theorem map_declared {refs refs' : List AnyRef} (h : List.Forall₂ AnyRef.Alike refs refs') :
    refs'.map declared = refs.map declared := by
  induction h with
  | nil => rfl
  | cons hhead _ ih => rw [List.map_cons, List.map_cons, ih, declared, declared, hhead.backendRef]

/-- The converted backends carry the rule's declared total: a dropped reference
declared no traffic. -/
theorem total_converted (hweights : ∀ ref ∈ ruleRefs route i, 0 ≤ declared ref) (ns : String)
    (clientCert : Option ClientCertConfig) :
    total weightOf ((ruleRefs (prepareRoute s route) i).filterMap
      (AnyRef.convert s ns clientCert)) = total declared (ruleRefs route i) := by
  have hdeclared := map_declared (forall₂_alike s route i)
  have hprepared : ∀ ref ∈ ruleRefs (prepareRoute s route) i, 0 ≤ declared ref := by
    intro ref href
    have hmem : declared ref ∈ (ruleRefs route i).map declared := by
      rw [← hdeclared]
      exact List.mem_map_of_mem href
    obtain ⟨ref₀, href₀, heq⟩ := List.mem_map.mp hmem
    rw [← heq]
    exact hweights ref₀ href₀
  rw [total_filterMap weightOf (fun ref _ b hb => weight_convert s hb)
    fun ref href hnone => le_antisymm (declared_of_dropped s hnone) (hprepared ref href),
    total, hdeclared, total]

theorem traffic_shares_kept (version : ℤ) {c : ConvertedRule}
    (hc : c ∈ (s.buildProxyConfig version set.http set.grpc failedRefs grpcFailedRefs).rules)
    {route : AnyRoute} (hroute : route ∈ set) (hfrom : ComesFrom c route)
    (hweights : ∀ ref ∈ ruleRefs route c.provenance.ruleIndex, 0 ≤ declared ref)
    (hfits : ∀ m ∈ marked s set failedRefs grpcFailedRefs, m.provenance = c.provenance →
      visitFits s (visited s set failedRefs grpcFailedRefs) m.rule = true) :
    (∃ groups : List (List Backend), groups.flatten = c.rule.backends ∧
      List.Forall₂ (fun ref group =>
        StandsFor s set failedRefs grpcFailedRefs route.id.ns ref group ∧
        total weightOf group * total declared (ruleRefs route c.provenance.ruleIndex) =
          declared ref * total weightOf c.rule.backends)
        (ruleRefs route c.provenance.ruleIndex) groups) ∧
    (total weightOf c.rule.backends = 0 ↔
      ∀ ref ∈ ruleRefs route c.provenance.ruleIndex, declared ref = 0) := by
  obtain ⟨c₀, hc₀, hprov, hscales⟩ := scales_built s set failedRefs grpcFailedRefs version hc hfits
  have hfrom₀ : ComesFrom c₀ route := by
    rw [ComesFrom, hprov]
    exact hfrom
  obtain ⟨clientCert, hbackends⟩ := backends_of_mem_convertAnyRoute s
    (mem_convertAnyRoute_of_comesFrom s hroute hc₀ hfrom₀)
  rw [hprov] at hbackends
  have halike := forall₂_alike s route c.provenance.ruleIndex
  have htotal : total weightOf c₀.rule.backends =
      total declared (ruleRefs route c.provenance.ruleIndex) := by
    rw [hbackends]
    exact total_converted s hweights route.id.ns clientCert
  obtain ⟨⟨groups, hflatten, hgroups⟩, hzero⟩ :=
    hscales.shares (exact_buildSplit s set failedRefs grpcFailedRefs c.provenance.kind)
  rw [hbackends] at hgroups
  obtain ⟨groups', hflatten', hgroups'⟩ := exists_groups_filterMap hgroups
  refine ⟨⟨groups', hflatten'.trans hflatten, ?_⟩, ?_⟩
  · refine (forall₂_mem (forall₂_comp halike hgroups')).imp ?_
    rintro ref group ⟨href, ref', halike', hgroup⟩
    have hdeclared : declared ref' = declared ref := by
      rw [declared, declared, halike'.backendRef]
    have hkind : c.provenance.kind = ref.kind := hfrom.1.trans (kind_of_mem_ruleRefs href).symm
    rw [fate_buildSplit, hkind, ← hbackends] at hgroup
    constructor
    · refine standsFor_of_alike s set failedRefs grpcFailedRefs halike' (hgroup.imp id ?_)
      rintro ⟨b, hb, hmap, -⟩
      exact ⟨b, hb, hmap⟩
    · rcases hgroup with ⟨hnone, rfl⟩ | ⟨b, hb, -, hshare⟩
      · have hdrop := declared_of_dropped s hnone
        have hnonneg := hweights ref href
        have hzero' : declared ref = 0 := by omega
        rw [hzero', zero_mul]
        exact zero_mul _
      · have hweight : weightOf b = declared ref := (weight_convert s hb).trans hdeclared
        rw [← htotal, ← hweight]
        exact hshare
  · rw [hzero, htotal, total_eq_zero_iff declared hweights]

end Shares

section Weights

variable (s : ProxySyncer)

theorem weights_visitRule {κ : Type} {step : κ → RouteRule → RouteRule}
    (h : ∀ key rule, (step key rule).backends.map weightOf = rule.backends.map weightOf)
    (keys : List κ) (rule : RouteRule) :
    (visitRule step keys rule).backends.map weightOf = rule.backends.map weightOf := by
  induction keys generalizing rule with
  | nil => rfl
  | cons key rest ih => exact (ih (step key rule)).trans (h key rule)

theorem weights_markRule (target : String) (status : ℤ) (rule : RouteRule) :
    (markRule s.lib target status rule).backends.map weightOf = rule.backends.map weightOf := by
  rw [markRule]
  split
  · rfl
  · rw [List.map_map]
    refine List.map_congr_left ?_
    intro b _
    exact weight_markBackend s.lib target status b

/-- Only the expansion touches weights. -/
theorem weights_probedRule (refs : List ServiceKey) (rules : List ConvertedRule)
    (rule : RouteRule) :
    (probedRule s refs rules rule).backends.map weightOf =
      (headlessRules s (visitedServices s refs rules) rule).backends.map weightOf := by
  simp only [probedRule, externalRule, List.map_map]
  have hmarked : ∀ key rule, (zeroEndpointRule s.lib s.objects s.clusterDomain key
      rule).backends.map weightOf = rule.backends.map weightOf := by
    intro key rule
    rw [zeroEndpointRule]
    split
    · exact weights_markRule s _ _ rule
    · rfl
  rw [← weights_visitRule hmarked]
  refine List.map_congr_left ?_
  intro b _
  exact weight_resolveExternalBackend s.lib s.objects b

theorem weights_buildProxyConfig (version : ℤ) (routes : List HTTPRoute)
    (grpcRoutes : List GRPCRoute) (failedRefs grpcFailedRefs : List BackendRefError) :
    (s.buildProxyConfig version routes grpcRoutes failedRefs grpcFailedRefs).rules.map
        (fun c => c.rule.backends.map weightOf) =
      (s.markedRules routes grpcRoutes failedRefs grpcFailedRefs).map fun m =>
        (headlessRules s (visitedServices s (visitedRefs s routes grpcRoutes)
          (s.markedRules routes grpcRoutes failedRefs grpcFailedRefs)) m.rule).backends.map
            weightOf := by
  rw [rules_buildProxyConfig, mapRules, List.map_map]
  refine List.map_congr_left ?_
  intro m _
  exact weights_probedRule s (visitedRefs s routes grpcRoutes) _ m.rule

variable {b : Backend} {backends : List Backend} {lib : GoLib} {endpoints : List ResolvedEndpoint}
  {target : String}

theorem reduceWeightsByGCD_of_unit (hb : b ∈ backends) (hunit : b.weight = 1) :
    reduceWeightsByGCD backends = backends := by
  have hdvd : (weightsGCD backends : ℤ) ∣ 1 := hunit ▸ (foldl_gcd_dvd backends 0).2 b hb
  have hle : weightsGCD backends ≤ 1 := by
    exact_mod_cast Int.le_of_dvd one_pos hdvd
  exact if_pos hle

/-- An expanded backend stays represented, with its weight. -/
theorem exists_mem_expanded (hb : b ∈ backends)
    (hmatch : backendMatchesHeadless lib target b = true) (hne : endpoints ≠ []) :
    ∃ copy ∈ backends.flatMap fun b =>
        if backendMatchesHeadless lib target b then endpointBackends lib endpoints b
        else [{ b with weight := scaleWeight b.weight endpoints.length }],
      copy.weight = b.weight := by
  obtain ⟨endpoint, hendpoint⟩ := List.exists_mem_of_ne_nil endpoints hne
  obtain ⟨copy, hcopy, hweight⟩ : ∃ copy ∈ endpointBackends lib endpoints b,
      copy.weight = b.weight :=
    ⟨_, List.mem_map_of_mem hendpoint, rfl⟩
  refine ⟨copy, List.mem_flatMap.mpr ⟨b, hb, ?_⟩, hweight⟩
  rwa [if_pos hmatch]

/-- A backend of weight one that is expanded leaves nothing to divide by. -/
theorem weights_expandRuleBackends {rule : RouteRule} (hb : b ∈ rule.backends)
    (hmatch : backendMatchesHeadless lib target b = true) (hunit : b.weight = 1)
    (hne : endpoints ≠ []) :
    (expandRuleBackends lib target endpoints rule).backends.map weightOf =
      rule.backends.flatMap fun b =>
        if backendMatchesHeadless lib target b then List.replicate endpoints.length b.weight
        else [scaleWeight b.weight endpoints.length] := by
  have hany : rule.backends.any (backendMatchesHeadless lib target) = true :=
    List.any_eq_true.mpr ⟨b, hb, hmatch⟩
  obtain ⟨copy, hmem, hweight⟩ := exists_mem_expanded hb hmatch hne
  rw [expandRuleBackends, hany, Bool.not_true, if_neg Bool.false_ne_true]
  rw [reduceWeightsByGCD_of_unit hmem (hweight.trans hunit), List.map_flatMap]
  refine List.flatMap_congr ?_
  intro b _
  split
  · rw [endpointBackends, List.map_map]
    exact List.map_const
  · rfl

end Weights

section Fixtures

def httpPort : ServicePort := ⟨"http", 80, .number 8080, none⟩

/-- A slice with this many ready endpoints. -/
def podSlice (service : String) (count : ℕ) : EndpointSlice :=
  ⟨"shop", service, [⟨some "http", some 8080⟩],
    (List.range count).map fun i => ⟨["pod-" ++ toString i], some true⟩⟩

def shopService (name clusterIP : String) : Service :=
  ⟨.of "shop" name, .other "ClusterIP", clusterIP, [httpPort]⟩

/-- An ordinary Service and a headless one with slices of these sizes. -/
def shopSyncer (sizes : List ℕ) : ProxySyncer where
  objects :=
    { gateways := []
      listenerSets := []
      gatewayClasses := []
      namespaces := []
      labelSelectorAsSelector := fun _ => none
      services := [shopService "main" "10.0.0.1", shopService "canary" clusterIPNone]
      endpointSlices := podSlice "main" 1 :: sizes.map (podSlice "canary")
      parsesCABundle := fun _ => true
      x509KeyPair := fun _ _ => true }
  lib := .literal
  clusterDomain := "cluster.local"
  controllerName := "example.com/tunnel"

/-- The headless Service gets one part, the ordinary one a million. -/
def canaryRoute : HTTPRoute :=
  ⟨.of "shop" "front", 0, [], [],
    [{ backendRefs := [{ name := "canary", weight := some 1 },
        { name := "main", weight := some 1000000 }] }]⟩

def canaryBackends : List Backend :=
  [{ url := "http://canary.shop.svc.cluster.local:80", weight := 1 },
    { url := "http://main.shop.svc.cluster.local:80", weight := 1000000 }]

def canarySizes : List ℕ := [1000, 1000, 148]

theorem markedRules_canary :
    ((shopSyncer canarySizes).markedRules [canaryRoute] [] [] []).map
      (fun m => m.rule.backends) = [canaryBackends] := by
  decide +kernel

theorem visitedServices_canary :
    visitedServices (shopSyncer canarySizes) (visitedRefs (shopSyncer canarySizes) [canaryRoute] [])
        ((shopSyncer canarySizes).markedRules [canaryRoute] [] [] []) =
      [⟨"shop", "canary", 80⟩, ⟨"shop", "main", 80⟩] := by
  decide +kernel

theorem length_podSlice (count : ℕ) :
    (sliceEndpoints (podSlice "canary" count) "http" 8080).1.length = count := by
  have hport : endpointSlicePort (podSlice "canary" count) "http" = some 8080 := rfl
  have hready : (podSlice "canary" count).endpoints.filter isReady =
      (podSlice "canary" count).endpoints := by
    refine List.filter_eq_self.mpr ?_
    intro endpoint hendpoint
    obtain ⟨i, -, rfl⟩ := List.mem_map.mp hendpoint
    rfl
  simp only [sliceEndpoints, hport, hready]
  simp [podSlice, List.flatMap_map]

theorem headlessProbe_canary : ∃ endpoints,
    headlessProbe (shopSyncer canarySizes).objects ⟨"shop", "canary", 80⟩ = .expand endpoints ∧
      endpoints.length = 2148 := by
  have hslices : (shopSyncer canarySizes).objects.endpointSlicesOf "shop" "canary" =
      canarySizes.map (podSlice "canary") := rfl
  have hport : serviceTargetPort (shopService "canary" clusterIPNone) 80 = ("http", 8080) := rfl
  have hlength : (resolveHeadlessEndpoints (shopSyncer canarySizes).objects
      (shopService "canary" clusterIPNone) ⟨"shop", "canary", 80⟩).1.length = 2148 := by
    simp only [resolveHeadlessEndpoints, hslices, hport]
    simp [canarySizes, length_podSlice]
  have hservice : (shopSyncer canarySizes).objects.getService "shop" "canary" =
      some (shopService "canary" clusterIPNone) := rfl
  refine ⟨_, ?_, hlength⟩
  have hne : (resolveHeadlessEndpoints (shopSyncer canarySizes).objects
      (shopService "canary" clusterIPNone) ⟨"shop", "canary", 80⟩).1.isEmpty = false := by
    rw [List.isEmpty_eq_false_iff, ← List.length_pos_iff, hlength]
    decide
  simp only [headlessProbe, hservice]
  rw [hne]
  rfl

theorem host_canary : ServiceKey.host (shopSyncer canarySizes).lib
    (shopSyncer canarySizes).clusterDomain ⟨"shop", "canary", 80⟩ =
      "canary.shop.svc.cluster.local:80" := by
  decide +kernel

theorem matches_canary : canaryBackends.map (backendMatchesHeadless (shopSyncer canarySizes).lib
    "canary.shop.svc.cluster.local:80") = [true, false] := by
  decide +kernel

theorem weights_canary {rule : RouteRule} (hrule : rule.backends = canaryBackends) :
    (headlessRules (shopSyncer canarySizes) [⟨"shop", "canary", 80⟩, ⟨"shop", "main", 80⟩]
      rule).backends.map weightOf = List.replicate 2148 1 ++ [maxInt32] := by
  obtain ⟨endpoints, hprobe, hlength⟩ := headlessProbe_canary
  have hmain : headlessProbe (shopSyncer canarySizes).objects ⟨"shop", "main", 80⟩ = .nothing := rfl
  have hne : endpoints ≠ [] := List.length_pos_iff.mp (by omega)
  have hguard : ¬(endpoints.isEmpty || decide ("canary.shop.svc.cluster.local:80" = "")) = true := by
    simp [hne]
  have hscaled : scaleWeight 1000000 (2148 : ℕ) = maxInt32 := by decide
  obtain ⟨hmatch, hrest⟩ := List.cons_eq_cons.mp matches_canary
  obtain ⟨hother, -⟩ := List.cons_eq_cons.mp hrest
  have hmem : { url := "http://canary.shop.svc.cluster.local:80", weight := 1 } ∈ rule.backends :=
    hrule ▸ List.mem_cons_self
  have hvisit : headlessRules (shopSyncer canarySizes)
      [⟨"shop", "canary", 80⟩, ⟨"shop", "main", 80⟩] rule =
        expandRule (shopSyncer canarySizes).lib "canary.shop.svc.cluster.local:80" endpoints rule := by
    rw [headlessRules, visitRule, List.foldl_cons, List.foldl_cons, List.foldl_nil, headlessRule,
      hmain]
    rw [headlessRule, hprobe, host_canary]
  rw [hvisit, expandRule, if_neg hguard, weights_expandRuleBackends hmem hmatch rfl hne, hrule]
  simp only [canaryBackends, List.flatMap_cons, List.flatMap_nil, hmatch, hother, hlength,
    hscaled, reduceIte, Bool.false_eq_true, List.append_nil]

/-- The large weight meets the bound, and the canary gets more than its part. -/
theorem clamped_weight_shifts_shares :
    ((shopSyncer canarySizes).buildProxyConfig 1 [canaryRoute] [] [] []).rules.map
        (fun c => c.rule.backends.map weightOf) = [List.replicate 2148 1 ++ [maxInt32]] ∧
    maxInt32 * total declared (ruleRefs (.http canaryRoute) 0) ≠ 1000000 * (2148 + maxInt32) := by
  refine ⟨?_, by decide⟩
  obtain ⟨m, hmarked, hbackends⟩ := List.map_eq_singleton_iff.mp markedRules_canary
  rw [weights_buildProxyConfig, visitedServices_canary, hmarked, List.map_singleton,
    weights_canary hbackends]

theorem built_twoPods : (((shopSyncer [2]).buildProxyConfig 1 [canaryRoute] [] [] []).rules.any
      fun c => ComesFrom c (.http canaryRoute) ∧ c.provenance.ruleIndex = 0) = true ∧
    ((marked (shopSyncer [2]) (.single (.http canaryRoute)) [] []).all fun m =>
      visitFits (shopSyncer [2]) (visited (shopSyncer [2]) (.single (.http canaryRoute)) [] [])
        m.rule) = true := by
  decide +kernel

theorem two_pods_keep_shares :
    ∃ c ∈ ((shopSyncer [2]).buildProxyConfig 1 [canaryRoute] [] [] []).rules,
      ∃ canary main : List Backend, c.rule.backends = canary ++ main ∧
        total weightOf canary * 1000001 = total weightOf c.rule.backends ∧
        total weightOf main * 1000001 = 1000000 * total weightOf c.rule.backends ∧
        total weightOf c.rule.backends ≠ 0 := by
  obtain ⟨hany, hfits⟩ := built_twoPods
  obtain ⟨c, hc, hbuilt⟩ := List.any_eq_true.mp hany
  obtain ⟨hfrom, hindex⟩ := of_decide_eq_true hbuilt
  have hdeclared : ∀ ref ∈ ruleRefs (.http canaryRoute) 0, 0 < declared ref := by decide
  have hweights : ∀ ref ∈ ruleRefs (.http canaryRoute) c.provenance.ruleIndex,
      0 ≤ declared ref := by
    rw [hindex]
    intro ref href
    exact (hdeclared ref href).le
  obtain ⟨⟨groups, hgroups, hshares⟩, hzero⟩ := traffic_shares_kept (shopSyncer [2])
    (.single (.http canaryRoute)) [] [] 1 hc (RouteSet.mem_single.mpr rfl) hfrom hweights
    (fun m hm _ => List.all_eq_true.mp hfits m hm)
  rw [hindex] at hshares hzero
  cases hshares with
  | @cons _ canary _ _ hcanary hrest =>
    cases hrest with
    | @cons _ main _ _ hmain hnil =>
      cases hnil
      refine ⟨c, hc, canary, main, ?_, ?_, ?_, ?_⟩
      · rw [← hgroups, List.flatten_cons, List.flatten_singleton]
      · exact hcanary.2.trans (one_mul _)
      · exact hmain.2
      · intro h
        have hfirst := hzero.mp h _ List.mem_cons_self
        exact (hdeclared _ List.mem_cons_self).ne' hfirst

end Fixtures

end TunnelGateway.TrafficShares
