import TunnelGateway.BuildConfig
import TunnelGateway.FanOut

/-!
What the passes do to one backend. A pass reaches every rule, but what becomes of
a backend depends on the backend alone, up to the weights: its fate is the list
of backends that stand for it afterwards. Fates of passes that run one after the
other compose, so the whole build has a fate as well.
-/
namespace TunnelGateway.BackendFate

open GoText GatewayApi RouteSpec ProxyConfig ClusterObjects ServiceTarget RouteConversion
open BackendPasses FailedRefs BuildConfig FanOut

section Fates

abbrev Backend := ProxyConfig.BackendRef

/-- A backend without its share of the traffic; whether it has one is kept. -/
def core (b : Backend) : Backend := { b with weight := b.weight.sign }

/-- Only the backends change, each to its fate. -/
structure Rewrites (f : Fate Backend) (rule rule' : RouteRule) : Prop where
  frame : { rule' with backends := rule.backends } = rule
  backends : rule'.backends.map core = (rule.backends.map core).flatMap f

variable {f : Fate Backend} {rule rule' : RouteRule}

theorem Rewrites.eq_with (h : Rewrites f rule rule') :
    rule' = { rule with backends := rule'.backends } :=
  congrArg (fun r : RouteRule => { r with backends := rule'.backends }) h.frame

/-- The rules keep their order and provenance; the kind of route a rule comes
from selects the fate of its backends. -/
def RewritesAll (fate : RouteKind → Fate Backend) (rules rules' : List ConvertedRule) : Prop :=
  List.Forall₂ (fun c c' => c'.provenance = c.provenance ∧
    Rewrites (fate c.provenance.kind) c.rule c'.rule) rules rules'

theorem Rewrites.refl (rule : RouteRule) : Rewrites Fate.unchanged rule rule :=
  ⟨rfl, (List.flatMap_singleton' _).symm⟩

theorem Rewrites.trans {g : Fate Backend} {rule₁ rule₂ rule₃ : RouteRule}
    (h₁ : Rewrites f rule₁ rule₂) (h₂ : Rewrites g rule₂ rule₃) :
    Rewrites (f.andThen g) rule₁ rule₃ where
  frame := by rw [← h₁.frame, ← h₂.frame]
  backends := by rw [h₂.backends, h₁.backends, List.flatMap_assoc]; rfl

theorem Rewrites.hostnames (h : Rewrites f rule rule') : rule'.hostnames = rule.hostnames := by
  rw [← h.frame]

theorem Rewrites.routeMatches (h : Rewrites f rule rule') :
    rule'.routeMatches = rule.routeMatches := by
  rw [← h.frame]

theorem Rewrites.filters (h : Rewrites f rule rule') : rule'.filters = rule.filters := by
  rw [← h.frame]

theorem RewritesAll.refl (rules : List ConvertedRule) :
    RewritesAll (fun _ => Fate.unchanged) rules rules := by
  refine List.forall₂_same.mpr ?_
  intro c _
  exact ⟨rfl, Rewrites.refl c.rule⟩

theorem RewritesAll.trans {f g : RouteKind → Fate Backend} {rules₁ rules₂ rules₃ : List ConvertedRule}
    (h₁ : RewritesAll f rules₁ rules₂) (h₂ : RewritesAll g rules₂ rules₃) :
    RewritesAll (fun kind => (f kind).andThen (g kind)) rules₁ rules₃ := by
  induction h₁ generalizing rules₃ with
  | nil =>
    cases h₂
    exact .nil
  | cons hhead _ ih =>
    cases h₂ with
    | cons hhead' htail' =>
      obtain ⟨hprov, hrule⟩ := hhead
      obtain ⟨hprov', hrule'⟩ := hhead'
      rw [hprov] at hrule'
      exact .cons ⟨hprov'.trans hprov, hrule.trans hrule'⟩ (ih htail')

theorem mapRules_id (rules : List ConvertedRule) : mapRules id rules = rules :=
  List.map_id rules

theorem mapRules_mapRules (f g : RouteRule → RouteRule) (rules : List ConvertedRule) :
    mapRules g (mapRules f rules) = mapRules (g ∘ f) rules := by
  rw [mapRules, mapRules, List.map_map]
  rfl

/-- A pass that leaves all rules alone on a condition. -/
theorem ite_mapRules (p : Prop) [Decidable p] (step : RouteRule → RouteRule)
    (rules : List ConvertedRule) :
    (if p then rules else mapRules step rules) =
      mapRules (fun rule => if p then rule else step rule) rules := by
  split_ifs
  · exact (mapRules_id rules).symm
  · rfl

/-- A rule under rewritings that run in order. -/
def visitRule {κ : Type} (step : κ → RouteRule → RouteRule) (keys : List κ) (rule : RouteRule) :
    RouteRule :=
  keys.foldl (fun acc key => step key acc) rule

theorem foldl_mapRules {κ : Type} (step : κ → RouteRule → RouteRule) (keys : List κ)
    (rules : List ConvertedRule) :
    keys.foldl (fun acc key => mapRules (step key) acc) rules =
      mapRules (visitRule step keys) rules := by
  induction keys generalizing rules with
  | nil => exact (mapRules_id rules).symm
  | cons key rest ih =>
    rw [List.foldl_cons, ih, mapRules_mapRules]
    rfl

/-- Rewritings that commute may run in any order. -/
theorem visitRule_eq_of_perm {κ : Type} {step : κ → RouteRule → RouteRule}
    (hcomm : ∀ k k' rule, step k (step k' rule) = step k' (step k rule)) {keys keys' : List κ}
    (hperm : keys.Perm keys') (rule : RouteRule) :
    visitRule step keys rule = visitRule step keys' rule :=
  hperm.foldl_eq' (fun k _ k' _ rule => hcomm k' k rule) rule

/-- A loop of rewritings has the fate of the rewritings in order. -/
theorem rewrites_visitRule {κ : Type} {step : κ → RouteRule → RouteRule} {fate : κ → Fate Backend}
    (h : ∀ key rule, Rewrites (fate key) rule (step key rule)) (keys : List κ) (rule : RouteRule) :
    Rewrites (Fate.run (keys.map fate)) rule (visitRule step keys rule) := by
  induction keys using List.reverseRecOn with
  | nil => exact Rewrites.refl rule
  | append_singleton keys key ih =>
    rw [List.map_append, List.map_singleton, run_append_singleton, visitRule, List.foldl_append]
    exact ih.trans (h key _)

/-- A pass that treats all rules alike. -/
theorem rewritesAll_mapRules {step : RouteRule → RouteRule}
    (h : ∀ rule, Rewrites f rule (step rule)) (rules : List ConvertedRule) :
    RewritesAll (fun _ => f) rules (mapRules step rules) := by
  refine List.forall₂_map_right_iff.mpr (List.forall₂_same.mpr ?_)
  intro c _
  exact ⟨rfl, h c.rule⟩

/-- A loop of passes has the fate of the passes in order. -/
theorem rewritesAll_foldl {α : Type*} {step : α → List ConvertedRule → List ConvertedRule}
    {fate : α → Fate Backend} (h : ∀ a rules, RewritesAll (fun _ => fate a) rules (step a rules))
    (as : List α) (rules : List ConvertedRule) :
    RewritesAll (fun _ => Fate.run (as.map fate)) rules
      (as.foldl (fun acc a => step a acc) rules) := by
  induction as using List.reverseRecOn with
  | nil => exact RewritesAll.refl rules
  | append_singleton as a ih =>
    rw [List.foldl_append, List.map_append, List.map_singleton]
    simp only [run_append_singleton]
    exact ih.trans (h a _)

end Fates

section Weights

/-- Scaling keeps the sign of a weight. -/
theorem sign_scaleWeight {weight scale : ℤ} (hscale : 0 < scale) :
    (scaleWeight weight scale).sign = weight.sign := by
  unfold scaleWeight
  split
  · rename_i hlarge
    have hpos : 0 < weight * scale := lt_trans (by decide) hlarge
    have hweight : 0 < weight := Int.pos_of_mul_pos_left hpos hscale
    rw [Int.sign_eq_one_of_pos hweight]
    rfl
  · rw [Int.sign_mul, Int.sign_eq_one_of_pos hscale, mul_one]

theorem sign_tdiv_of_dvd {weight divisor : ℤ} (hdivisor : 0 < divisor) (h : divisor ∣ weight) :
    (weight.tdiv divisor).sign = weight.sign := by
  obtain ⟨k, rfl⟩ := h
  rw [Int.mul_tdiv_cancel_left k hdivisor.ne', Int.sign_mul,
    Int.sign_eq_one_of_pos hdivisor, one_mul]

/-- The common divisor divides what it started from and every weight. -/
theorem foldl_gcd_dvd (backends : List Backend) (d : ℕ) :
    (backends.foldl (fun d b => Int.gcd d b.weight) d) ∣ d ∧
      ∀ b ∈ backends, ((backends.foldl (fun d b => Int.gcd d b.weight) d : ℕ) : ℤ) ∣ b.weight := by
  induction backends generalizing d with
  | nil => exact ⟨dvd_rfl, by simp⟩
  | cons b rest ih =>
    obtain ⟨hstart, hrest⟩ := ih (Int.gcd d b.weight)
    refine ⟨hstart.trans ?_, ?_⟩
    · exact Int.natCast_dvd_natCast.mp (Int.gcd_dvd_left ..)
    · intro b' hb'
      rcases List.mem_cons.mp hb' with rfl | hb'
      · exact (Int.natCast_dvd_natCast.mpr hstart).trans (Int.gcd_dvd_right ..)
      · exact hrest b' hb'

theorem map_core_reduceWeightsByGCD (backends : List Backend) :
    (reduceWeightsByGCD backends).map core = backends.map core := by
  have hdvd : ∀ b ∈ backends, (weightsGCD backends : ℤ) ∣ b.weight := (foldl_gcd_dvd backends 0).2
  simp only [reduceWeightsByGCD]
  split
  · rfl
  · have hpos : (0 : ℤ) < weightsGCD backends := by omega
    rw [List.map_map]
    refine List.map_congr_left ?_
    intro b hb
    have hsign := sign_tdiv_of_dvd hpos (hdvd b hb)
    simp [core, hsign]

end Weights

section Passes

variable (lib : GoLib)

def markFate (target : String) (status : ℤ) : Fate Backend := fun b =>
  [if target = "" then b else markBackend lib target status b]

def expandFate (target : String) (endpoints : List ResolvedEndpoint) : Fate Backend := fun b =>
  if endpoints.isEmpty || target = "" then [b]
  else if backendMatchesHeadless lib target b then endpointBackends lib endpoints b
  else [b]

def externalFate (objects : Objects) : Fate Backend := fun b =>
  [resolveExternalBackend lib objects b]

/-- A mark is a status and nothing else. -/
theorem markBackend_frame (target : String) (status : ℤ) (b : Backend) :
    markBackend lib target status b =
      { b with unavailableStatus := (markBackend lib target status b).unavailableStatus } := by
  unfold markBackend
  split <;> rfl

theorem url_markBackend (target : String) (status : ℤ) (b : Backend) :
    (markBackend lib target status b).url = b.url := by
  rw [markBackend_frame]

theorem weight_markBackend (target : String) (status : ℤ) (b : Backend) :
    (markBackend lib target status b).weight = b.weight := by
  rw [markBackend_frame]

theorem markBackend_of_host_ne {target : String} {b : Backend}
    (h : hostOf lib b.url ≠ some target) (status : ℤ) : markBackend lib target status b = b := by
  simp [markBackend, unmarkedAt, h]

/-- Marks with one status commute: a backend has one host. -/
theorem markBackend_comm (target target' : String) (status : ℤ) (b : Backend) :
    markBackend lib target status (markBackend lib target' status b) =
      markBackend lib target' status (markBackend lib target status b) := by
  have hmarked : ∀ {host host' : String}, hostOf lib b.url ≠ some host →
      hostOf lib (markBackend lib host' status b).url ≠ some host := by
    intro host host' h
    rwa [url_markBackend]
  by_cases h : hostOf lib b.url = some target
  · by_cases heq : target = target'
    · rw [heq]
    · have hne : hostOf lib b.url ≠ some target' := by
        rw [h]
        exact fun hsame => heq (Option.some.inj hsame)
      rw [markBackend_of_host_ne lib hne, markBackend_of_host_ne lib (hmarked hne)]
  · rw [markBackend_of_host_ne lib h, markBackend_of_host_ne lib (hmarked h)]

theorem core_markBackend (target : String) (status : ℤ) (b : Backend) :
    core (markBackend lib target status b) = markBackend lib target status (core b) := by
  have hsame : unmarkedAt lib target (core b) = unmarkedAt lib target b := rfl
  unfold markBackend
  rw [hsame]
  split <;> rfl

theorem backendMatchesHeadless_core (target : String) (b : Backend) :
    backendMatchesHeadless lib target (core b) = backendMatchesHeadless lib target b := by
  have hsign : decide (0 < (core b).weight) = decide (0 < b.weight) :=
    decide_eq_decide.mpr Int.sign_pos_iff
  unfold backendMatchesHeadless
  rw [hsign]
  rfl

def markRule (target : String) (status : ℤ) (rule : RouteRule) : RouteRule :=
  if target = "" then rule
  else { rule with backends := rule.backends.map (markBackend lib target status) }

theorem markUnavailableBackends_eq (target : String) (status : ℤ) (rules : List ConvertedRule) :
    markUnavailableBackends lib target status rules =
      mapRules (markRule lib target status) rules :=
  ite_mapRules _ _ rules

theorem markRule_comm (target target' : String) (status : ℤ) (rule : RouteRule) :
    markRule lib target status (markRule lib target' status rule) =
      markRule lib target' status (markRule lib target status rule) := by
  simp only [markRule]
  split
  · rfl
  · split
    · rfl
    · simp [List.map_map, markBackend_comm lib target target']

theorem rewrites_map {g : Backend → Backend} (hcore : ∀ b, core (g b) = g (core b))
    (rule : RouteRule) :
    Rewrites (fun b => [g b]) rule { rule with backends := rule.backends.map g } := by
  refine ⟨rfl, ?_⟩
  rw [← List.map_eq_flatMap, List.map_map, List.map_map]
  exact List.map_congr_left fun b _ => hcore b

theorem rewrites_markRule (target : String) (status : ℤ) (rule : RouteRule) :
    Rewrites (markFate lib target status) rule (markRule lib target status rule) := by
  unfold markRule markFate
  split
  · exact Rewrites.refl rule
  · exact rewrites_map (core_markBackend lib target status) rule

variable {endpoints : List ResolvedEndpoint}

theorem map_core_expand (target : String) (hne : endpoints ≠ []) (b : Backend) :
    (if backendMatchesHeadless lib target b then endpointBackends lib endpoints b
      else [{ b with weight := scaleWeight b.weight endpoints.length }]).map core =
      if backendMatchesHeadless lib target (core b) then endpointBackends lib endpoints (core b)
      else [core b] := by
  have hlength : (0 : ℤ) < endpoints.length := by
    have := List.length_pos_of_ne_nil hne
    omega
  rw [backendMatchesHeadless_core]
  split
  · rw [endpointBackends, List.map_map]
    rfl
  · simp [core, sign_scaleWeight hlength]

theorem rewrites_expandRuleBackends (target : String) (hne : endpoints ≠ []) (rule : RouteRule) :
    Rewrites (fun b => if backendMatchesHeadless lib target b then
      endpointBackends lib endpoints b else [b]) rule
      (expandRuleBackends lib target endpoints rule) := by
  unfold expandRuleBackends
  split
  · rename_i hnone
    -- Without a match every backend is its own fate.
    refine ⟨rfl, ?_⟩
    rw [List.flatMap_map, List.map_eq_flatMap]
    refine List.flatMap_congr ?_
    intro b hb
    have hmatch : backendMatchesHeadless lib target b = false := by
      simp only [Bool.not_eq_true', List.any_eq_false] at hnone
      exact Bool.eq_false_iff.mpr (hnone b hb)
    rw [backendMatchesHeadless_core, hmatch]
    rfl
  · refine ⟨rfl, ?_⟩
    rw [map_core_reduceWeightsByGCD, List.map_flatMap, List.flatMap_map]
    refine List.flatMap_congr ?_
    intro b _
    exact map_core_expand lib target hne b

def expandRule (target : String) (endpoints : List ResolvedEndpoint) (rule : RouteRule) :
    RouteRule :=
  if endpoints.isEmpty || target = "" then rule
  else expandRuleBackends lib target endpoints rule

theorem rewrites_expandRule (target : String) (endpoints : List ResolvedEndpoint)
    (rule : RouteRule) :
    Rewrites (expandFate lib target endpoints) rule (expandRule lib target endpoints rule) := by
  unfold expandRule expandFate
  split
  · exact Rewrites.refl rule
  · rename_i hne
    have hendpoints : endpoints ≠ [] := by
      intro hnil
      simp [hnil] at hne
    exact rewrites_expandRuleBackends lib target hendpoints rule

theorem core_resolveExternalBackend (objects : Objects) (b : Backend) :
    core (resolveExternalBackend lib objects b) = resolveExternalBackend lib objects (core b) := by
  have hurl : (core b).url = b.url := rfl
  have hstatus : (core b).unavailableStatus = b.unavailableStatus := rfl
  unfold resolveExternalBackend failBackend
  rw [hurl, hstatus]
  split
  · rfl
  split
  · split_ifs <;> rfl
  split
  · split_ifs <;> rfl
  · rfl

def externalRule (objects : Objects) (rule : RouteRule) : RouteRule :=
  { rule with backends := rule.backends.map (resolveExternalBackend lib objects) }

theorem rewritesAll_resolveExternalBackends (objects : Objects) (rules : List ConvertedRule) :
    RewritesAll (fun _ => externalFate lib objects) rules
      (resolveExternalBackends lib objects rules) :=
  rewritesAll_mapRules (rewrites_map (core_resolveExternalBackend lib objects)) rules

variable (objects : Objects) (clusterDomain : String)

/-- What a Service is found to be by the pass that expands headless ones. -/
inductive HeadlessProbe where
  | nothing
  | expand (endpoints : List ResolvedEndpoint)
  | mark
  deriving DecidableEq

def headlessProbe (key : ServiceKey) : HeadlessProbe :=
  match objects.getService key.ns key.name with
  | none => .nothing
  | some svc =>
      if isExternalName svc || svc.clusterIP ≠ clusterIPNone then .nothing
      else
        let (endpoints, hadReady) := resolveHeadlessEndpoints objects svc key
        if !endpoints.isEmpty then .expand endpoints else if hadReady then .mark else .nothing

def headlessRule (key : ServiceKey) (rule : RouteRule) : RouteRule :=
  match headlessProbe objects key with
  | .nothing => rule
  | .expand endpoints => expandRule lib (key.host lib clusterDomain) endpoints rule
  | .mark => markRule lib (key.host lib clusterDomain) statusServiceUnavailable rule

/-- The Service has no ready endpoint to send requests to. -/
def zeroEndpoints (key : ServiceKey) : Bool :=
  (objects.getService key.ns key.name).any fun svc =>
    !isExternalName svc && !serviceHasReadyEndpoint objects key.ns key.name

def zeroEndpointRule (key : ServiceKey) (rule : RouteRule) : RouteRule :=
  if zeroEndpoints objects key then
    markRule lib (key.host lib clusterDomain) statusServiceUnavailable rule
  else rule

theorem zeroEndpointRule_comm (key key' : ServiceKey) (rule : RouteRule) :
    zeroEndpointRule lib objects clusterDomain key
        (zeroEndpointRule lib objects clusterDomain key' rule) =
      zeroEndpointRule lib objects clusterDomain key'
        (zeroEndpointRule lib objects clusterDomain key rule) := by
  simp only [zeroEndpointRule]
  split
  · split
    · exact markRule_comm lib _ _ _ rule
    · rfl
  · rfl

end Passes

section Probes

variable (objects : Objects) (lib : GoLib) (clusterDomain : String)

/-- What probing a Service for endpoints does to a backend. -/
def headlessFate (key : ServiceKey) : Fate Backend :=
  match objects.getService key.ns key.name with
  | none => Fate.unchanged
  | some svc =>
      if isExternalName svc || svc.clusterIP ≠ clusterIPNone then Fate.unchanged
      else
        let (endpoints, hadReady) := resolveHeadlessEndpoints objects svc key
        if !endpoints.isEmpty then expandFate lib (key.host lib clusterDomain) endpoints
        else if hadReady then
          markFate lib (key.host lib clusterDomain) statusServiceUnavailable
        else Fate.unchanged

def zeroEndpointFate (key : ServiceKey) : Fate Backend :=
  match objects.getService key.ns key.name with
  | none => Fate.unchanged
  | some svc =>
      if isExternalName svc then Fate.unchanged
      else if serviceHasReadyEndpoint objects key.ns key.name then Fate.unchanged
      else markFate lib (key.host lib clusterDomain) statusServiceUnavailable

theorem headlessFate_eq (key : ServiceKey) :
    headlessFate objects lib clusterDomain key =
      match headlessProbe objects key with
      | .nothing => Fate.unchanged
      | .expand endpoints => expandFate lib (key.host lib clusterDomain) endpoints
      | .mark => markFate lib (key.host lib clusterDomain) statusServiceUnavailable := by
  rw [headlessFate, headlessProbe]
  cases objects.getService key.ns key.name with
  | none => rfl
  | some svc =>
    dsimp only
    split_ifs <;> rfl

theorem expandBackendIfHeadless_eq (key : ServiceKey) (rules : List ConvertedRule) :
    expandBackendIfHeadless objects lib clusterDomain key rules =
      mapRules (headlessRule lib objects clusterDomain key) rules := by
  unfold headlessRule
  rw [expandBackendIfHeadless, headlessProbe]
  cases objects.getService key.ns key.name with
  | none => exact (mapRules_id rules).symm
  | some svc =>
    dsimp only
    split_ifs
    · exact (mapRules_id rules).symm
    · exact ite_mapRules _ _ rules
    · exact markUnavailableBackends_eq lib _ _ rules
    · exact (mapRules_id rules).symm

theorem rewrites_headlessRule (key : ServiceKey) (rule : RouteRule) :
    Rewrites (headlessFate objects lib clusterDomain key) rule
      (headlessRule lib objects clusterDomain key rule) := by
  rw [headlessFate_eq, headlessRule]
  cases headlessProbe objects key with
  | nothing => exact Rewrites.refl rule
  | expand endpoints => exact rewrites_expandRule lib _ endpoints rule
  | mark => exact rewrites_markRule lib _ _ rule

theorem rewritesAll_expandBackendIfHeadless (key : ServiceKey) (rules : List ConvertedRule) :
    RewritesAll (fun _ => headlessFate objects lib clusterDomain key) rules
      (expandBackendIfHeadless objects lib clusterDomain key rules) := by
  rw [expandBackendIfHeadless_eq]
  exact rewritesAll_mapRules (rewrites_headlessRule objects lib clusterDomain key) rules

theorem zeroEndpointFate_eq (key : ServiceKey) :
    zeroEndpointFate objects lib clusterDomain key =
      if zeroEndpoints objects key then
        markFate lib (key.host lib clusterDomain) statusServiceUnavailable
      else Fate.unchanged := by
  rw [zeroEndpointFate, zeroEndpoints]
  cases objects.getService key.ns key.name with
  | none => rfl
  | some svc =>
    dsimp only
    split_ifs <;> simp_all

theorem markBackendIfZeroEndpoints_eq (key : ServiceKey) (rules : List ConvertedRule) :
    markBackendIfZeroEndpoints objects lib clusterDomain key rules =
      mapRules (zeroEndpointRule lib objects clusterDomain key) rules := by
  unfold zeroEndpointRule
  rw [markBackendIfZeroEndpoints, zeroEndpoints]
  cases objects.getService key.ns key.name with
  | none => exact (mapRules_id rules).symm
  | some svc =>
    cases hexternal : isExternalName svc <;>
      cases hready : serviceHasReadyEndpoint objects key.ns key.name <;>
      simp [hexternal, markUnavailableBackends_eq, mapRules]

theorem rewritesAll_markBackendIfZeroEndpoints (key : ServiceKey) (rules : List ConvertedRule) :
    RewritesAll (fun _ => zeroEndpointFate objects lib clusterDomain key) rules
      (markBackendIfZeroEndpoints objects lib clusterDomain key rules) := by
  rw [markBackendIfZeroEndpoints_eq, zeroEndpointFate_eq]
  refine rewritesAll_mapRules ?_ rules
  intro rule
  unfold zeroEndpointRule
  split
  · exact rewrites_markRule lib _ _ rule
  · exact Rewrites.refl rule

/-- What a probe of the Service at a host can do: nothing, expand its backends or
mark them. -/
inductive IsProbe (target : String) : Fate Backend → Prop
  | unchanged : IsProbe target Fate.unchanged
  | expand (endpoints : List ResolvedEndpoint) : IsProbe target (expandFate lib target endpoints)
  | mark : IsProbe target (markFate lib target statusServiceUnavailable)

theorem isProbe_headlessFate (key : ServiceKey) :
    IsProbe lib (key.host lib clusterDomain) (headlessFate objects lib clusterDomain key) := by
  rw [headlessFate_eq]
  cases headlessProbe objects key with
  | nothing => exact .unchanged
  | expand endpoints => exact .expand endpoints
  | mark => exact .mark

theorem isProbe_zeroEndpointFate (key : ServiceKey) :
    IsProbe lib (key.host lib clusterDomain) (zeroEndpointFate objects lib clusterDomain key) := by
  rw [zeroEndpointFate_eq]
  split
  · exact .mark
  · exact .unchanged

/-- The fate under a visit of the Services that the routes name. -/
def visitFate (fate : ServiceKey → Fate Backend) (routes : List HTTPRoute)
    (grpcRoutes : List GRPCRoute) (rules : List ConvertedRule) : Fate Backend :=
  Fate.run ((authorizedServices lib clusterDomain
    (serviceRefs httpRuleRefs routes ++ serviceRefs grpcRuleRefs grpcRoutes) rules).map fate)

end Probes

section Build

variable (s : ProxySyncer)

def failedFate (failedRefs : List BackendRefError) : Fate Backend :=
  Fate.run (failedRefs.map fun ref => markFate s.lib (s.failedHost ref) statusInternalServerError)

/-- The failed references that are applied to the rules of a kind. -/
def appliedRefs (grpcRoutes : List GRPCRoute) (failedRefs grpcFailedRefs : List BackendRefError) :
    RouteKind → List BackendRefError
  | .HTTPRoute => failedRefs ++ if grpcRoutes.isEmpty then [] else grpcFailedRefs
  | .GRPCRoute => grpcFailedRefs

/-- What probing and resolving does to a backend of the marked rules. -/
def probedFate (routes : List HTTPRoute) (grpcRoutes : List GRPCRoute)
    (rules : List ConvertedRule) : Fate Backend :=
  let visitHTTP := s.preparedHTTPRoutes routes
  let visitGRPC := s.preparedGRPCRoutes grpcRoutes
  let expanded := expandHeadlessBackends s.objects s.lib s.clusterDomain visitHTTP visitGRPC rules
  (visitFate s.lib s.clusterDomain (headlessFate s.objects s.lib s.clusterDomain)
      visitHTTP visitGRPC rules).andThen
    (visitFate s.lib s.clusterDomain (zeroEndpointFate s.objects s.lib s.clusterDomain)
      visitHTTP visitGRPC expanded)

/-- The fate of a converted backend in the built configuration. -/
def buildFate (routes : List HTTPRoute) (grpcRoutes : List GRPCRoute)
    (failedRefs grpcFailedRefs : List BackendRefError) (kind : RouteKind) : Fate Backend :=
  ((failedFate s (appliedRefs grpcRoutes failedRefs grpcFailedRefs kind)).andThen
    (probedFate s routes grpcRoutes
      (s.markedRules routes grpcRoutes failedRefs grpcFailedRefs))).andThen
    (externalFate s.lib s.objects)

def failedRule (refs : List BackendRefError) (rule : RouteRule) : RouteRule :=
  visitRule (fun ref => markRule s.lib (s.failedHost ref) statusInternalServerError) refs rule

theorem markFailedRefs_eq (refs : List BackendRefError) (rules : List ConvertedRule) :
    s.markFailedRefs refs rules = mapRules (failedRule s refs) rules := by
  rw [ProxySyncer.markFailedRefs]
  simp only [markUnavailableBackends_eq]
  exact foldl_mapRules (fun ref => markRule s.lib (s.failedHost ref) statusInternalServerError)
    refs rules

theorem rewrites_failedRule (refs : List BackendRefError) (rule : RouteRule) :
    Rewrites (failedFate s refs) rule (failedRule s refs rule) :=
  rewrites_visitRule (fun _ => rewrites_markRule s.lib _ statusInternalServerError) refs rule

theorem rewritesAll_markFailedRefs (failedRefs : List BackendRefError)
    (rules : List ConvertedRule) :
    RewritesAll (fun _ => failedFate s failedRefs) rules (s.markFailedRefs failedRefs rules) := by
  rw [markFailedRefs_eq]
  exact rewritesAll_mapRules (rewrites_failedRule s failedRefs) rules

theorem failedFate_append (refs refs' : List BackendRefError) :
    failedFate s (refs ++ refs') = (failedFate s refs).andThen (failedFate s refs') := by
  unfold failedFate
  rw [List.map_append, run_append]

/-- The rules before any pass has run. -/
def convertedRules (routes : List HTTPRoute) (grpcRoutes : List GRPCRoute) :
    List ConvertedRule :=
  s.httpRules routes ++ s.grpcRules grpcRoutes

/-- Rewrite every rule as its kind has it. -/
def mapByKind (f : RouteKind → RouteRule → RouteRule) (rules : List ConvertedRule) :
    List ConvertedRule :=
  rules.map fun c => { c with rule := f c.provenance.kind c.rule }

theorem mapByKind_of_kind {f : RouteKind → RouteRule → RouteRule} {kind : RouteKind}
    {rules : List ConvertedRule} (h : ∀ c ∈ rules, c.provenance.kind = kind) :
    mapByKind f rules = mapRules (f kind) rules := by
  refine List.map_congr_left ?_
  intro c hc
  rw [h c hc]

theorem markedRules_eq (routes : List HTTPRoute) (grpcRoutes : List GRPCRoute)
    (failedRefs grpcFailedRefs : List BackendRefError) :
    s.markedRules routes grpcRoutes failedRefs grpcFailedRefs =
      mapByKind (fun kind => failedRule s (appliedRefs grpcRoutes failedRefs grpcFailedRefs kind))
        (convertedRules s routes grpcRoutes) := by
  have hhttp : ∀ c ∈ s.httpRules routes, c.provenance.kind = .HTTPRoute :=
    fun c hc => kind_of_mem_convertRoutesGeneric hc
  have hgrpc : ∀ c ∈ s.grpcRules grpcRoutes, c.provenance.kind = .GRPCRoute :=
    fun c hc => kind_of_mem_convertRoutesGeneric hc
  simp only [ProxySyncer.markedRules, markFailedRefs_eq]
  rw [convertedRules, mapByKind, List.map_append]
  have hfirst := mapByKind_of_kind (f := fun kind =>
    failedRule s (appliedRefs grpcRoutes failedRefs grpcFailedRefs kind)) hhttp
  have hsecond := mapByKind_of_kind (f := fun kind =>
    failedRule s (appliedRefs grpcRoutes failedRefs grpcFailedRefs kind)) hgrpc
  rw [mapByKind] at hfirst hsecond
  rw [hfirst, hsecond]
  split
  · rename_i hempty
    have hnone : s.grpcRules grpcRoutes = [] := by
      rw [List.isEmpty_iff.mp hempty]
      rfl
    rw [hnone]
    simp [appliedRefs, hempty, mapRules]
  · rename_i hne
    have happlied : ∀ rule, failedRule s (appliedRefs grpcRoutes failedRefs grpcFailedRefs
        .HTTPRoute) rule = failedRule s grpcFailedRefs (failedRule s failedRefs rule) := by
      intro rule
      rw [appliedRefs, if_neg hne]
      exact List.foldl_append
    rw [mapRules, List.map_append]
    congr 1
    rw [← mapRules, mapRules_mapRules]
    congr 1
    funext rule
    exact (happlied rule).symm

theorem rewritesAll_markedRules (routes : List HTTPRoute) (grpcRoutes : List GRPCRoute)
    (failedRefs grpcFailedRefs : List BackendRefError) :
    RewritesAll (fun kind => failedFate s (appliedRefs grpcRoutes failedRefs grpcFailedRefs kind))
      (convertedRules s routes grpcRoutes)
      (s.markedRules routes grpcRoutes failedRefs grpcFailedRefs) := by
  rw [markedRules_eq]
  refine List.forall₂_map_right_iff.mpr (List.forall₂_same.mpr ?_)
  intro c _
  exact ⟨rfl, rewrites_failedRule s _ c.rule⟩

theorem rewritesAll_probed (routes : List HTTPRoute) (grpcRoutes : List GRPCRoute)
    (rules : List ConvertedRule) :
    RewritesAll (fun _ => probedFate s routes grpcRoutes rules) rules
      (markZeroEndpointBackends s.objects s.lib s.clusterDomain (s.preparedHTTPRoutes routes)
        (s.preparedGRPCRoutes grpcRoutes)
        (expandHeadlessBackends s.objects s.lib s.clusterDomain (s.preparedHTTPRoutes routes)
          (s.preparedGRPCRoutes grpcRoutes) rules)) :=
  (rewritesAll_foldl (rewritesAll_expandBackendIfHeadless s.objects s.lib s.clusterDomain)
    _ rules).trans
    (rewritesAll_foldl (rewritesAll_markBackendIfZeroEndpoints s.objects s.lib s.clusterDomain) _ _)

/-- The build rewrites every converted backend to its fate. -/
theorem rewritesAll_buildProxyConfig (version : ℤ) (routes : List HTTPRoute)
    (grpcRoutes : List GRPCRoute) (failedRefs grpcFailedRefs : List BackendRefError) :
    RewritesAll (buildFate s routes grpcRoutes failedRefs grpcFailedRefs)
      (convertedRules s routes grpcRoutes)
      (s.buildProxyConfig version routes grpcRoutes failedRefs grpcFailedRefs).rules :=
  ((rewritesAll_markedRules s routes grpcRoutes failedRefs grpcFailedRefs).trans
    (rewritesAll_probed s routes grpcRoutes _)).trans
    (rewritesAll_resolveExternalBackends s.lib s.objects _)

end Build

section Invariants

/-- Every pass of a build has the property, and composition keeps it. -/
structure KeptByPasses (lib : GoLib) (objects : Objects) (P : Fate Backend → Prop) : Prop where
  unchanged : P Fate.unchanged
  andThen : ∀ f g, P f → P g → P (f.andThen g)
  mark : ∀ target status, P (markFate lib target status)
  expand : ∀ target endpoints, P (expandFate lib target endpoints)
  external : P (externalFate lib objects)

variable {s : ProxySyncer} {P : Fate Backend → Prop} (h : KeptByPasses s.lib s.objects P)
include h

theorem KeptByPasses.failed (refs : List BackendRefError) : P (failedFate s refs) := by
  refine run_induction h.unchanged h.andThen ?_
  intro f hf
  obtain ⟨ref, -, rfl⟩ := List.mem_map.mp hf
  exact h.mark _ _

theorem KeptByPasses.probe {target : String} {f : Fate Backend} (hf : IsProbe s.lib target f) :
    P f := by
  cases hf with
  | unchanged => exact h.unchanged
  | expand endpoints => exact h.expand _ endpoints
  | mark => exact h.mark _ _

theorem KeptByPasses.visit {fate : ServiceKey → Fate Backend}
    (hprobe : ∀ key, IsProbe s.lib (key.host s.lib s.clusterDomain) (fate key))
    (routes : List HTTPRoute) (grpcRoutes : List GRPCRoute) (rules : List ConvertedRule) :
    P (visitFate s.lib s.clusterDomain fate routes grpcRoutes rules) := by
  refine run_induction h.unchanged h.andThen ?_
  intro f hf
  obtain ⟨key, -, rfl⟩ := List.mem_map.mp hf
  exact h.probe (hprobe key)

theorem KeptByPasses.build (routes : List HTTPRoute) (grpcRoutes : List GRPCRoute)
    (failedRefs grpcFailedRefs : List BackendRefError) (kind : RouteKind) :
    P (buildFate s routes grpcRoutes failedRefs grpcFailedRefs kind) := by
  refine h.andThen _ _ (h.andThen _ _ (h.failed _) (h.andThen _ _ ?_ ?_)) h.external
  · exact h.visit (isProbe_headlessFate s.objects s.lib s.clusterDomain) _ _ _
  · exact h.visit (isProbe_zeroEndpointFate s.objects s.lib s.clusterDomain) _ _ _

end Invariants

section Transport

/-- Every backend stays represented, with its TLS settings and filters. -/
structure KeepsTransport (f : Fate Backend) : Prop where
  kept : ∀ b, ∀ d ∈ f b, d.tls = b.tls ∧ d.filters = b.filters
  ne_nil : ∀ b, f b ≠ []

theorem keepsTransport_unchanged : KeepsTransport Fate.unchanged where
  kept b d hd := by
    rw [List.mem_singleton.mp hd]
    exact ⟨rfl, rfl⟩
  ne_nil b := List.cons_ne_nil b []

theorem KeepsTransport.andThen {f g : Fate Backend} (hf : KeepsTransport f)
    (hg : KeepsTransport g) : KeepsTransport (f.andThen g) where
  kept b d hd := by
    obtain ⟨mid, hmid, hd⟩ := mem_andThen.mp hd
    obtain ⟨htls, hfilters⟩ := hf.kept b mid hmid
    obtain ⟨htls', hfilters'⟩ := hg.kept mid d hd
    exact ⟨htls'.trans htls, hfilters'.trans hfilters⟩
  ne_nil b := by
    obtain ⟨mid, hmid⟩ := List.exists_mem_of_ne_nil _ (hf.ne_nil b)
    obtain ⟨d, hd⟩ := List.exists_mem_of_ne_nil _ (hg.ne_nil mid)
    exact List.ne_nil_of_mem (mem_andThen.mpr ⟨mid, hmid, hd⟩)

/-- A pass that turns every backend into one. -/
theorem keepsTransport_of_map {g : Backend → Backend}
    (h : ∀ b, (g b).tls = b.tls ∧ (g b).filters = b.filters) : KeepsTransport fun b => [g b] where
  kept b d hd := by
    rw [List.mem_singleton.mp hd]
    exact h b
  ne_nil b := List.cons_ne_nil _ _

variable (lib : GoLib)

theorem keepsTransport_expandFate (target : String) (endpoints : List ResolvedEndpoint) :
    KeepsTransport (expandFate lib target endpoints) where
  kept b d hd := by
    unfold expandFate at hd
    split at hd
    · exact keepsTransport_unchanged.kept b d hd
    · split at hd
      · obtain ⟨ep, -, rfl⟩ := List.mem_map.mp hd
        exact ⟨rfl, rfl⟩
      · exact keepsTransport_unchanged.kept b d hd
  ne_nil b := by
    unfold expandFate
    split
    · exact List.cons_ne_nil _ _
    · rename_i hne
      split
      · intro hnil
        have hempty : endpoints = [] := List.map_eq_nil_iff.mp hnil
        simp [hempty] at hne
      · exact List.cons_ne_nil _ _

theorem keepsTransport_passes (s : ProxySyncer) :
    KeptByPasses s.lib s.objects KeepsTransport where
  unchanged := keepsTransport_unchanged
  andThen _ _ hf hg := hf.andThen hg
  mark _ _ := keepsTransport_of_map fun b => by
    split
    · exact ⟨rfl, rfl⟩
    · rw [markBackend_frame]
      exact ⟨rfl, rfl⟩
  expand := keepsTransport_expandFate s.lib
  external := keepsTransport_of_map fun b => by
    unfold resolveExternalBackend failBackend
    repeat' split
    all_goals exact ⟨rfl, rfl⟩

end Transport

end TunnelGateway.BackendFate
