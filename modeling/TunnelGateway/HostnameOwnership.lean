import TunnelGateway.PartitionHostnames
import TunnelGateway.RouteOrigin

/-!
The hostname-ownership policy. A label binds a namespace to one suffix, and a
route of a policed namespace is turned down unless all of its hostnames lie at
or below that suffix. The policy reads the hostnames a route declares; what is
served are their intersections with listener hostnames, and what is answered is
decided by the router. Neither step leads out of the suffix.
-/
namespace TunnelGateway.HostnameOwnership

open GoText Hostname GatewayApi ProxyConfig ParentBinding RouteCollection EffectiveHostnames
  RoutingOptimality PartitionHostnames RouteConversion BuildConfig BackendFate FanOut RouteOrigin

section Policy

/-- Without a selector every namespace is policed. -/
structure Policy where
  labelKey : String
  selector : Option (List (String × String) → Bool)

structure Verdict where
  allowed : Bool
  message : String := ""
  deriving DecidableEq

variable (lib : GoLib)

def hostnameWithinSuffix (hostname suffix : String) : Bool :=
  let candidate := trimPrefix (toLower lib hostname) "*."
  candidate = suffix || hasSuffix candidate ("." ++ suffix)

namespace Policy

variable (policy : Policy)

def polices (nsLabels : List (String × String)) : Bool := policy.selector.all (· nsLabels)

/-- A missing label reads as the empty text. -/
def suffix (nsLabels : List (String × String)) : String :=
  toLower lib ((nsLabels.lookup policy.labelKey).getD "")

def evaluate (nsLabels : List (String × String)) (hostnames : List String) : Verdict :=
  let suffix := policy.suffix lib nsLabels
  if !policy.polices nsLabels then { allowed := true }
  else if suffix = "" then
    { allowed := false
      message := "namespace is policed by the hostname-ownership policy but carries no " ++
        policy.labelKey.quote ++ " label; " ++
        "label the namespace with its allowed hostname suffix or exclude it from the policy scope" }
  else if hostnames.isEmpty then
    { allowed := false
      message := "routes in hostname-ownership-policed namespaces must declare spec.hostnames " ++
        "explicitly (an empty list would capture the listener hostname); allowed suffix: " ++
        suffix.quote }
  else
    match hostnames.find? (!hostnameWithinSuffix lib · suffix) with
    | some hostname =>
        { allowed := false
          message := "hostname " ++ hostname.quote ++
            " is outside the namespace's allowed suffix " ++ suffix.quote ++ "; " ++
            "all route hostnames must equal the suffix or be subdomains of it" }
    | none => { allowed := true }

/-- In a policed namespace a verdict allows the declared hostnames, of which
there is at least one. -/
theorem evaluate_allowed_iff {nsLabels : List (String × String)} {hostnames : List String}
    (hpoliced : policy.polices nsLabels = true) :
    (policy.evaluate lib nsLabels hostnames).allowed = true ↔
      policy.suffix lib nsLabels ≠ "" ∧ hostnames ≠ [] ∧
        ∀ hostname ∈ hostnames,
          hostnameWithinSuffix lib hostname (policy.suffix lib nsLabels) = true := by
  unfold evaluate
  simp only [hpoliced]
  by_cases hsuffix : policy.suffix lib nsLabels = ""
  · simp [hsuffix]
  · rw [if_neg hsuffix]
    cases hostnames with
    | nil => simp
    | cons first rest =>
      cases hfind : (first :: rest).find?
          (!hostnameWithinSuffix lib · (policy.suffix lib nsLabels)) with
      | some hostname =>
        have hmem := List.mem_of_find?_eq_some hfind
        have hout := List.find?_some hfind
        constructor
        · intro h
          cases h
        · intro h
          rw [h.2.2 hostname hmem] at hout
          cases hout
      | none =>
        refine ⟨fun _ => ⟨hsuffix, List.cons_ne_nil _ _, ?_⟩, fun _ => rfl⟩
        intro hostname hmem
        simpa using List.find?_eq_none.mp hfind hostname hmem

end Policy

end Policy

section Hosts

/-- The host is the suffix or lies below it. -/
def OwnsHost (suffix host : String) : Prop :=
  host = suffix ∨ hasSuffix host ("." ++ suffix) = true

instance (suffix host : String) : Decidable (OwnsHost suffix host) :=
  inferInstanceAs (Decidable (_ ∨ _))

variable {lib : GoLib} {suffix host : String}

/-- A hostname within the suffix matches only hosts within the suffix. -/
theorem ownsHost_of_matches {p : Hostname}
    (hwithin : hostnameWithinSuffix lib p.value suffix = true) (hmatch : p.Matches host) :
    OwnsHost suffix host := by
  unfold hostnameWithinSuffix at hwithin
  rw [toLower_value] at hwithin
  rw [Hostname.Matches] at hmatch
  cases hwild : p.isWildcard with
  | false =>
    have hkept : trimPrefix p.value "*." = p.value := if_neg (Bool.eq_false_iff.mp hwild)
    rw [pattern_of_not_isWildcard hwild] at hmatch
    have hhost : host = p.value := String.toList_inj.mp hmatch
    simpa [OwnsHost, hkept, hhost] using hwithin
  | true =>
    obtain ⟨name, hname⟩ := p.toList_of_isWildcard hwild
    have hcut : (trimPrefix p.value "*.").toList = name := by
      have htrim : trimPrefix p.value "*." = sliceFrom p.value 2 := if_pos hwild
      rw [htrim, toList_sliceFrom, hname]
      rfl
    have hbelow : ('.' :: name) <:+ host.toList := by
      rw [pattern_of_isWildcard hwild, toList_sliceFrom, hname] at hmatch
      exact hmatch.1
    right
    rw [hasSuffix_iff]
    simp only [Bool.or_eq_true, decide_eq_true_eq, hasSuffix_iff, hcut] at hwithin
    rcases hwithin with heq | hsub
    · have hsuffix : suffix.toList = name := by rw [← heq, hcut]
      rw [String.toList_append, hsuffix]
      exact hbelow
    · exact hsub.trans ((List.suffix_cons '.' name).trans hbelow)

/-- Listeners only narrow what a route declares. -/
theorem answers_of_answers_served {cluster : Cluster} {Rule : Type} {kind : RouteKind}
    {route : Route Rule} (h : Answers (servedHostnames cluster lib kind route) host) :
    Answers route.hostnames host := by
  by_cases hread : ∃ ref listener, Contributing cluster lib kind route ref listener
  · obtain ⟨ref, listener, -, hcovers⟩ := (answers_servedHostnames hread host).mp h
    exact hcovers.2
  · rwa [servedHostnames_of_unread hread] at h

theorem answers_of_answers_anyRoute {s : ProxySyncer} {route : AnyRoute}
    (h : Answers (route.servedHostnames s) host) : Answers route.hostnames host := by
  cases route <;> exact answers_of_answers_served h

end Hosts

section EndToEnd

variable {s : ProxySyncer} {set : RouteSet} {route : AnyRoute}

variable {c : ConvertedRule} {failedRefs grpcFailedRefs : List FailedRefs.BackendRefError}
  {version : ℤ}

/-- A rule of a built configuration has the served hostnames of its route. -/
theorem hostnames_of_comesFrom (hroute : route ∈ set)
    (hc : c ∈ (s.buildProxyConfig version set.http set.grpc failedRefs grpcFailedRefs).rules)
    (hfrom : ComesFrom c route) :
    c.rule.hostnames = (route.servedHostnames s).map Hostname.value := by
  obtain ⟨c₀, hc₀, hprov, hrule⟩ := exists_left_of_forall₂
    (rewritesAll_buildProxyConfig s version set.http set.grpc failedRefs grpcFailedRefs) hc
  have hfrom₀ : ComesFrom c₀ route := by
    unfold ComesFrom at hfrom ⊢
    rwa [hprov] at hfrom
  rw [hrule.hostnames]
  exact hostnames_of_mem_convertAnyRoute s (mem_convertAnyRoute_of_comesFrom s hroute hc₀ hfrom₀)

/-- What the router answers with a rule of the route, the route declares. -/
theorem answers_of_route (hroute : route ∈ set) {order : Router.WildcardOrder}
    {table : Router.RoutingTable}
    (hcompile : Router.compileRoutingTable s.lib order (s.buildProxyConfig version set.http set.grpc
      failedRefs grpcFailedRefs).config = .ok table) {rand : ℕ → ℕ} {req : Matcher.Request}
    {result : Router.RouteResult} (hresult : Router.route s.lib table rand req = some result)
    (hc : (s.buildProxyConfig version set.http set.grpc failedRefs
      grpcFailedRefs).rules[result.ruleIndex]? = some c) (hfrom : ComesFrom c route) :
    Answers route.hostnames (Router.extractHost s.lib req) := by
  obtain ⟨candidate, hcandidate, htarget, -⟩ := (route_filed s.lib _ req hcompile rand).2 result hresult
  have hindex : result.ruleIndex = candidate.index := congrArg Prod.fst htarget
  have hlisted := hcandidate.listed
  rw [BuiltConfig.config, List.getElem?_map, ← hindex, hc] at hlisted
  have hrule : c.rule = candidate.rule := Option.some.inj hlisted
  have hhostnames := hostnames_of_comesFrom hroute (List.mem_of_getElem? hc) hfrom
  rw [hrule] at hhostnames
  apply answers_of_answers_anyRoute
  exact (filed_iff_answers s.lib hhostnames _).mp ⟨_, hcandidate.filed⟩

theorem ownsHost_of_allowed {policy : Policy} {nsLabels : List (String × String)}
    (hpoliced : policy.polices nsLabels = true) {lib : GoLib} {hostnames : List Hostname}
    (hallowed : (policy.evaluate lib nsLabels (hostnames.map Hostname.value)).allowed = true)
    {host : String} (hanswers : Answers hostnames host) :
    OwnsHost (policy.suffix lib nsLabels) host := by
  obtain ⟨-, hne, hwithin⟩ := (policy.evaluate_allowed_iff lib hpoliced).mp hallowed
  rcases hanswers with hnil | ⟨p, hp, hmatch⟩
  · exact absurd (List.map_eq_nil_iff.mpr hnil) hne
  · exact ownsHost_of_matches (hwithin p.value (List.mem_map_of_mem hp)) hmatch

/-- A route that the policy allows answers no host outside the suffix of its
namespace, whatever listeners it is bound to. -/
theorem allowed_route_owns_hosts (s : ProxySyncer) (policy : Policy)
    (nsLabels : List (String × String)) {suffix : String}
    (hpoliced : policy.polices nsLabels = true)
    (hlabel : nsLabels.lookup policy.labelKey = some suffix) (set : RouteSet) {route : AnyRoute}
    (hroute : route ∈ set)
    (hallowed : (policy.evaluate s.lib nsLabels
      (route.hostnames.map Hostname.value)).allowed = true)
    (version : ℤ) (failedRefs grpcFailedRefs : List FailedRefs.BackendRefError)
    (order : Router.WildcardOrder) {table : Router.RoutingTable}
    (hcompile : Router.compileRoutingTable s.lib order (s.buildProxyConfig version set.http set.grpc
      failedRefs grpcFailedRefs).config = .ok table)
    (rand : ℕ → ℕ) (req : Matcher.Request) {result : Router.RouteResult}
    (hresult : Router.route s.lib table rand req = some result) {c : ConvertedRule}
    (hc : (s.buildProxyConfig version set.http set.grpc failedRefs
      grpcFailedRefs).rules[result.ruleIndex]? = some c)
    (hfrom : ComesFrom c route) :
    OwnsHost (toLower s.lib suffix) (Router.extractHost s.lib req) := by
  have howns := ownsHost_of_allowed hpoliced hallowed
    (answers_of_route hroute hcompile hresult hc hfrom)
  rwa [Policy.suffix, hlabel, Option.getD_some] at howns

/-- The label is written in mixed case. -/
def tenantLabels : List (String × String) := [("owner.example/suffix", "Example.com")]

def everywhere : Policy := ⟨"owner.example/suffix", none⟩

/-- The listener has one full name below the route's wildcard. -/
def tenantSyncer : ProxySyncer where
  objects :=
    { gateways := [gatewayFor "edge" "web.example.com"]
      listenerSets := []
      gatewayClasses := [⟨"cloudflare", "example.com/tunnel"⟩]
      namespaces := [⟨"apps", tenantLabels⟩]
      labelSelectorAsSelector := fun _ => none
      parsesCABundle := fun _ => true
      x509KeyPair := fun _ _ => true }
  lib := .literal
  clusterDomain := "cluster.local"
  controllerName := "example.com/tunnel"

def tenantRoute : AnyRoute :=
  .http ⟨.of "apps" "site", 0, [⟨none, none, none, "edge", none, none⟩],
    (ofString? "*.example.com").toList, [{}]⟩

def tenantRequest : Matcher.Request where
  method := "GET"
  host := "WEB.example.com:443"
  path := "/"
  header _ := []
  query _ := []

theorem tenantRoute_owns_host :
    (tenantRoute.servedHostnames tenantSyncer).map Hostname.value = ["web.example.com"] ∧
    OwnsHost (toLower tenantSyncer.lib "Example.com")
      (Router.extractHost tenantSyncer.lib tenantRequest) := by
  let built := tenantSyncer.buildProxyConfig 1 (RouteSet.single tenantRoute).http
    (RouteSet.single tenantRoute).grpc [] []
  have hanswered : ((Router.compileRoutingTable tenantSyncer.lib .stable
      built.config).toOption.bind fun table =>
        (Router.route tenantSyncer.lib table (fun _ => 0) tenantRequest).bind fun result =>
          (built.rules[result.ruleIndex]?).map fun c => decide (ComesFrom c tenantRoute)) =
      some true := by
    decide +kernel
  obtain ⟨table, htable, hrest⟩ := Option.bind_eq_some_iff.mp hanswered
  obtain ⟨result, hresult, hrest⟩ := Option.bind_eq_some_iff.mp hrest
  obtain ⟨c, hc, hfrom⟩ := Option.map_eq_some_iff.mp hrest
  refine ⟨by decide +kernel, ?_⟩
  exact allowed_route_owns_hosts tenantSyncer everywhere tenantLabels (by decide)
    (by decide) (.single tenantRoute) (RouteSet.mem_single.mpr rfl) (by decide +kernel) 1 [] [] .stable
    ((Fallible.toOption_eq_some _ _).mp htable) (fun _ => 0) tenantRequest hresult hc
    (of_decide_eq_true hfrom)

end EndToEnd

section Sync

variable (cluster : Cluster) (lib : GoLib) (policy : Policy)

/-- A namespace that cannot be read is denied. -/
def evaluateHostnameOwnership (routeNamespace : String) (hostnames : List Hostname) : Verdict :=
  match cluster.getNamespace routeNamespace with
  | none =>
      { allowed := false
        message := "hostname-ownership policy could not read namespace " ++ routeNamespace.quote ++
          " (namespaces " ++ routeNamespace.quote ++ " not found); failing closed" }
  | some ns => policy.evaluate lib ns.labels (hostnames.map Hostname.value)

/-- `rejectIfHostnameNotOwned`: the message of a denial. -/
def denial (routeNamespace : String) (hostnames : List Hostname) : Option String :=
  let verdict := evaluateHostnameOwnership cluster lib policy routeNamespace hostnames
  if verdict.allowed then none else some verdict.message

variable {cluster lib policy}

/-- A route that is bound under the policy is one the policy allows. -/
theorem allowed_of_bound {Rule : Type} {controllerName : String} {kind : RouteKind}
    {route : Route Rule}
    (h : (bindRouteParents cluster lib controllerName (denial cluster lib policy) kind
      route).2.1 = true) :
    ∃ ns, cluster.getNamespace route.id.ns = some ns ∧
      (policy.evaluate lib ns.labels (route.hostnames.map Hostname.value)).allowed = true := by
  have hverdict :
      (evaluateHostnameOwnership cluster lib policy route.id.ns route.hostnames).allowed = true := by
    by_contra hdenied
    have hsome : denial cluster lib policy route.id.ns route.hostnames =
        some (evaluateHostnameOwnership cluster lib policy route.id.ns route.hostnames).message :=
      if_neg hdenied
    unfold bindRouteParents at h
    rw [hsome] at h
    simp only at h
    split at h <;> cases h
  unfold evaluateHostnameOwnership at hverdict
  cases hns : cluster.getNamespace route.id.ns with
  | none =>
    rw [hns] at hverdict
    cases hverdict
  | some ns =>
    rw [hns] at hverdict
    exact ⟨ns, rfl, hverdict⟩

/-- The sync binds the route under the policy. -/
def BoundUnder (s : ProxySyncer) (policy : Policy) : AnyRoute → Prop
  | .http route => (bindRouteParents s.objects.toCluster s.lib s.controllerName
      (denial s.objects.toCluster s.lib policy) .HTTPRoute route).2.1 = true
  | .grpc route => (bindRouteParents s.objects.toCluster s.lib s.controllerName
      (denial s.objects.toCluster s.lib policy) .GRPCRoute route).2.1 = true

variable {route : AnyRoute} {s : ProxySyncer}

theorem BoundUnder.allowed (h : BoundUnder s policy route) :
    ∃ ns, s.objects.toCluster.getNamespace route.id.ns = some ns ∧
      (policy.evaluate s.lib ns.labels (route.hostnames.map Hostname.value)).allowed = true := by
  cases route <;> exact allowed_of_bound h

/-- Every request that reaches a rule of a bound route of a policed namespace is
for a host of that namespace. -/
theorem bound_route_owns_hosts {set : RouteSet} (hbound : BoundUnder s policy route)
    (hroute : route ∈ set) {version : ℤ}
    {failedRefs grpcFailedRefs : List FailedRefs.BackendRefError} {order : Router.WildcardOrder}
    {table : Router.RoutingTable}
    (hcompile : Router.compileRoutingTable s.lib order (s.buildProxyConfig version set.http set.grpc
      failedRefs grpcFailedRefs).config = .ok table) {rand : ℕ → ℕ} {req : Matcher.Request}
    {result : Router.RouteResult} (hresult : Router.route s.lib table rand req = some result)
    {c : ConvertedRule} (hc : (s.buildProxyConfig version set.http set.grpc failedRefs
      grpcFailedRefs).rules[result.ruleIndex]? = some c) (hfrom : ComesFrom c route) :
    ∃ ns, s.objects.toCluster.getNamespace route.id.ns = some ns ∧
      (policy.polices ns.labels = true →
        OwnsHost (policy.suffix s.lib ns.labels) (Router.extractHost s.lib req)) := by
  obtain ⟨ns, hns, hallowed⟩ := hbound.allowed
  refine ⟨ns, hns, ?_⟩
  intro hpoliced
  exact ownsHost_of_allowed hpoliced hallowed
    (answers_of_route hroute hcompile hresult hc hfrom)

end Sync

end TunnelGateway.HostnameOwnership
