import TunnelGateway.FailedRefs
import TunnelGateway.Partition
import TunnelGateway.TunnelDocument

/-!
The sync of one tunnel. The routes of its partitions become ingress entries, one
for every hostname and match of a rule whose backend resolves, and the entries
become the desired rules of the tunnel's document. The document is written only
when it differs from the deployed one.
-/
namespace TunnelGateway.TunnelSync

open GoText GatewayApi RouteSpec ClusterObjects FailedRefs TunnelGateway.Partition TunnelDocument

section Projection

/-- The path a match contributes; the priority is 1 for an exact path. -/
structure ProjectedMatch where
  path : String
  priority : ℕ
  deriving DecidableEq

structure ProjectedRule where
  backendRefs : List RouteSpec.BackendRef
  projectedMatches : List ProjectedMatch

structure RouteEntry where
  hostname : String
  path : String
  service : String
  priority : ℕ
  deriving DecidableEq

def extractPath (pathMatch : Option HTTPPathMatch) : ProjectedMatch :=
  match pathMatch with
  | none => ⟨"", 0⟩
  | some pm =>
      let path := pm.value.getD "/"
      match pm.type.getD .pathPrefix with
      | .exact => ⟨path, 1⟩
      | .regularExpression => ⟨path, 0⟩
      | .pathPrefix => ⟨path, 0⟩
      | .other _ => ⟨path, 0⟩

def extractGRPCPath (methodMatch : Option GRPCMethodMatch) : ProjectedMatch :=
  match methodMatch with
  | none => ⟨"", 0⟩
  | some mm =>
      let service := mm.service.getD ""
      let method := mm.method.getD ""
      if service = "" && method = "" then ⟨"", 0⟩
      else if service ≠ "" && method = "" then ⟨"/" ++ service ++ "/", 0⟩
      -- A method alone has no path of its own.
      else if service = "" && method ≠ "" then ⟨"", 0⟩
      else ⟨"/" ++ service ++ "/" ++ method, 1⟩

/-- What the builder needs to know of a kind of route. -/
structure RouteAdapter (Rule : Type) where
  gatewayKind : RouteKind
  projectRule : Rule → ProjectedRule
  addCatchAll : Bool

def httpRouteAdapter : RouteAdapter HTTPRouteRule where
  gatewayKind := .HTTPRoute
  projectRule rule := ⟨httpBackendRefs rule, rule.routeMatches.map fun m => extractPath m.path⟩
  addCatchAll := true

def grpcRouteAdapter : RouteAdapter GRPCRouteRule where
  gatewayKind := .GRPCRoute
  projectRule rule :=
    ⟨grpcBackendRefs rule, rule.routeMatches.map fun m => extractGRPCPath m.method⟩
  addCatchAll := false

end Projection

section Build

variable (objects : Objects) (lib : GoLib) (clusterDomain : String) {Rule : Type}
  (adapter : RouteAdapter Rule)

def getHostnames (route : Route Rule) : List String :=
  if route.hostnames.isEmpty then ["*"] else route.hostnames.map Hostname.value

/-- One entry for every hostname and match, none when no backend is selected. -/
def ruleEntries (hostnames : List String) (service : String) (rule : ProjectedRule) :
    List RouteEntry :=
  if service = "" then []
  else hostnames.flatMap fun hostname =>
    if rule.projectedMatches.isEmpty then [⟨hostname, "", service, 0⟩]
    else rule.projectedMatches.map fun m => ⟨hostname, m.path, service, m.priority⟩

def extractProjectedEntries (route : Route Rule) : List RouteEntry × List BackendRefError :=
  let resolved := route.rules.map fun rule =>
    let projected := adapter.projectRule rule
    (projected, resolveRuleBackendRefs objects lib clusterDomain adapter.gatewayKind route.id.ns
      route.id.name projected.backendRefs)
  (resolved.flatMap fun (projected, service, _) =>
      ruleEntries (getHostnames route) service projected,
    resolved.flatMap fun (_, _, failedRefs) => failedRefs)

/-- The comparison of `sortRouteEntries`. -/
def entryLess (a b : RouteEntry) : Bool :=
  if a.hostname = "*" && b.hostname ≠ "*" then false
  else if a.hostname ≠ "*" && b.hostname = "*" then true
  else if a.hostname ≠ b.hostname then a.hostname < b.hostname
  else if a.priority ≠ b.priority then a.priority > b.priority
  else if len a.path ≠ len b.path then len a.path > len b.path
  else a.path < b.path

/-- `sort.Slice` is not stable: some permutation of the slice without an inversion. -/
structure SliceSort where
  sort : {α : Type} → (α → α → Bool) → List α → List α
  perm : ∀ {α : Type} (less : α → α → Bool) (l : List α), (sort less l).Perm l
  sorted : ∀ {α : Type} (less : α → α → Bool) (l : List α),
    (∀ a b, less a b = true → less b a = false) →
    (∀ a b c, less b a = false → less c b = false → less c a = false) →
    (sort less l).Pairwise fun a b => less b a = false

/-- One such sort. -/
def SliceSort.stable : SliceSort where
  sort less l := l.insertionSort fun a b => less b a = false
  perm _ l := List.perm_insertionSort _ l
  sorted {α} less l hasymm htrans :=
    haveI : Std.Total fun a b : α => less b a = false :=
      ⟨fun a b => (Bool.eq_false_or_eq_true (less b a)).symm.imp id (hasymm b a)⟩
    haveI : IsTrans α fun a b => less b a = false := ⟨htrans⟩
    List.pairwise_insertionSort _ l

variable (sorts : SliceSort)

/-- Entries without a hostname are served by the proxy alone. -/
def entriesToIngressRules (entries : List RouteEntry) : List UpdateIngress :=
  entries.filterMap fun entry =>
    if entry.hostname = "*" then none
    else some {
      service := some entry.service
      hostname := some entry.hostname
      path :=
        if entry.path ≠ "" && entry.path ≠ "/" then
          some (if entry.priority = 0 then entry.path ++ "*" else entry.path)
        else none }

structure BuildResult where
  rules : List UpdateIngress
  failedRefs : List BackendRefError

def build (routes : List (Route Rule)) : BuildResult :=
  let extracted := routes.map (extractProjectedEntries objects lib clusterDomain adapter)
  let rules := entriesToIngressRules (sorts.sort entryLess (extracted.flatMap Prod.fst))
  ⟨if adapter.addCatchAll then rules ++ [catchAll] else rules, extracted.flatMap Prod.snd⟩

end Build

section Sync

def filterOutCatchAll (rules : List UpdateIngress) : List UpdateIngress :=
  rules.filter fun r => !isCatchAll (ruleFromUpdate r)

def mergeAndSortRules (httpRules grpcRules : List UpdateIngress) : List UpdateIngress :=
  sortIngressRules (filterOutCatchAll httpRules ++ filterOutCatchAll grpcRules)

/-- The answers of the tunnel API; a failed call gives its error. -/
structure TunnelApi where
  resolveAccountID : ResolvedConfig → Except String String
  getConfiguration : String → String → Except String (List GetIngress)
  updateConfiguration : String → String → List UpdateIngress → Except String Unit

structure TunnelGroupResult where
  httpFailedRefs : List BackendRefError
  grpcFailedRefs : List BackendRefError
  ruleCount : ℕ := 0
  written : Bool := false
  err : Option String := none

def maxIngressRules : ℕ := 1000

/-- From the builds on. The second component is the document sent, if one is. -/
def syncDocument (api : TunnelApi) (resolved : ResolvedConfig) (http grpc : BuildResult) :
    TunnelGroupResult × Option (List UpdateIngress) :=
  let result : TunnelGroupResult :=
    { httpFailedRefs := http.failedRefs, grpcFailedRefs := grpc.failedRefs }
  let desiredRules := mergeAndSortRules http.rules grpc.rules
  match api.resolveAccountID resolved with
  | .error err =>
      ({ result with err := some ("resolving account for tunnel " ++ resolved.tunnelID ++ ": " ++
        err) }, none)
  | .ok accountID =>
      match api.getConfiguration accountID resolved.tunnelID with
      | .error err => ({ result with err := some err }, none)
      | .ok current =>
          let rules := finalRules current desiredRules
          let result := { result with ruleCount := rules.length }
          if rules.length > maxIngressRules then
            ({ result with err := some ("ingress rules limit exceeded for tunnel " ++
              resolved.tunnelID ++ ": " ++ toString rules.length ++ " rules (max " ++
              toString maxIngressRules ++ ")") }, none)
          else if rulesUnchanged current rules then (result, none)
          else
            match api.updateConfiguration accountID resolved.tunnelID rules with
            | .error err => ({ result with err := some err }, some rules)
            | .ok () => ({ result with written := true }, some rules)

def syncTunnelGroup (objects : Objects) (lib : GoLib) (clusterDomain : String)
    (sorts : SliceSort) (api : TunnelApi) (group : TunnelGroup HTTPRouteRule GRPCRouteRule) :
    TunnelGroupResult × Option (List UpdateIngress) :=
  let routes := groupRoutes group
  syncDocument api group.resolved
    (build objects lib clusterDomain httpRouteAdapter sorts routes.1)
    (build objects lib clusterDomain grpcRouteAdapter sorts routes.2)

end Sync

section Desired

variable (objects : Objects) (lib : GoLib) (clusterDomain : String) (sorts : SliceSort)
  {Rule : Type} (adapter : RouteAdapter Rule)

theorem getHostnames_ne_empty {route : Route Rule} {hostname : String}
    (h : hostname ∈ getHostnames route) : hostname ≠ "" := by
  rw [getHostnames] at h
  split at h
  · rw [List.mem_singleton.mp h]
    decide
  · obtain ⟨host, -, rfl⟩ := List.mem_map.mp h
    exact host.value_ne_empty

theorem hostname_of_mem_ruleEntries {hostnames : List String} {service : String}
    {rule : ProjectedRule} {entry : RouteEntry} (h : entry ∈ ruleEntries hostnames service rule) :
    entry.hostname ∈ hostnames := by
  rw [ruleEntries] at h
  split at h
  · simp at h
  · obtain ⟨hostname, hmem, hentry⟩ := List.mem_flatMap.mp h
    split at hentry
    · rw [List.mem_singleton.mp hentry]
      exact hmem
    · obtain ⟨m, -, rfl⟩ := List.mem_map.mp hentry
      exact hmem

theorem hostsNamed_entriesToIngressRules {entries : List RouteEntry}
    (h : ∀ entry ∈ entries, entry.hostname ≠ "") :
    HostsNamed (entriesToIngressRules entries) := by
  intro r hr
  obtain ⟨entry, hmem, hrule⟩ := List.mem_filterMap.mp hr
  split at hrule
  · cases hrule
  · cases hrule
    simp [h entry hmem]

/-- The builder gives every rule the hostname of a route. -/
theorem hostsNamed_build (routes : List (Route Rule)) :
    HostsNamed (build objects lib clusterDomain adapter sorts routes).rules := by
  have hrules : HostsNamed (entriesToIngressRules (sorts.sort entryLess
      ((routes.map (extractProjectedEntries objects lib clusterDomain adapter)).flatMap
        Prod.fst))) := by
    apply hostsNamed_entriesToIngressRules
    intro entry hentry
    rw [(sorts.perm _ _).mem_iff, List.flatMap_map, List.mem_flatMap] at hentry
    obtain ⟨route, -, hentry⟩ := hentry
    rw [extractProjectedEntries, List.mem_flatMap] at hentry
    obtain ⟨rule, -, hentry⟩ := hentry
    exact getHostnames_ne_empty (hostname_of_mem_ruleEntries hentry)
  rw [build]
  intro r hr
  by_cases hcatch : adapter.addCatchAll = true
  · simp only [hcatch] at hr
    rcases List.mem_append.mp hr with hmem | hlast
    · exact hrules r hmem
    · rw [List.mem_singleton.mp hlast]
      decide
  · simp only [if_neg hcatch] at hr
    exact hrules r hr

theorem hostsNamed_mergeAndSortRules {httpRules grpcRules : List UpdateIngress}
    (hhttp : HostsNamed httpRules) (hgrpc : HostsNamed grpcRules) :
    HostsNamed (mergeAndSortRules httpRules grpcRules) := by
  intro r hr
  rw [mergeAndSortRules, mem_sortIngressRules, List.mem_append] at hr
  rcases hr with hr | hr
  · exact hhttp r (List.mem_filter.mp hr).1
  · exact hgrpc r (List.mem_filter.mp hr).1

end Desired

section Convergence

/-- A sync whose read returns a document that already holds the rules sends nothing. -/
theorem syncDocument_sends_none {api : TunnelApi} {resolved : ResolvedConfig}
    {http grpc : BuildResult} {accountID : String} {current : List GetIngress}
    (haccount : api.resolveAccountID resolved = .ok accountID)
    (hget : api.getConfiguration accountID resolved.tunnelID = .ok current)
    (hsame : rulesUnchanged current
      (finalRules current (mergeAndSortRules http.rules grpc.rules)) = true) :
    (syncDocument api resolved http grpc).2 = none := by
  simp only [syncDocument, haccount, hget]
  split <;> rfl

/-- The document a sync leaves for desired rules that name their hosts: it holds the
desired rules and one catch-all at its end, the rules without a hostname stand last,
and the next sync with the same rules computes it again and sends nothing. -/
theorem tunnel_document_converges (current : List GetIngress) (desired : List UpdateIngress)
    (h : HostsNamed desired) :
    (∀ rule, rule ∈ (finalRules current desired).dropLast.map ruleFromUpdate ↔
      rule ∈ desired.map ruleFromUpdate ∧ isCatchAll rule = false) ∧
    (∃ rest, finalRules current desired = rest ++ [catchAll] ∧
      ∀ r ∈ rest, isCatchAll (ruleFromUpdate r) = false) ∧
    ((finalRules current desired).Pairwise fun first later =>
      (ruleFromUpdate first).hostname = "" → (ruleFromUpdate later).hostname = "") ∧
    (finalRules ((finalRules current desired).map stored) desired).map ruleFromUpdate =
      (finalRules current desired).map ruleFromUpdate ∧
    rulesUnchanged ((finalRules current desired).map stored)
      (finalRules ((finalRules current desired).map stored) desired) = true ∧
    ∀ (api : TunnelApi) (resolved : ResolvedConfig) (http grpc : BuildResult)
      (accountID : String), mergeAndSortRules http.rules grpc.rules = desired →
      api.resolveAccountID resolved = .ok accountID →
      api.getConfiguration accountID resolved.tunnelID =
        .ok ((finalRules current desired).map stored) →
      (syncDocument api resolved http grpc).2 = none := by
  refine ⟨?_, ?_, hostless_last h, rules_finalRules_stored h, rulesUnchanged_stored h, ?_⟩
  · intro rule
    rw [finalRules_eq, List.dropLast_concat, mem_rules_sortedRules]
  · exact ⟨sortedRules current desired, finalRules_eq, fun r hr => isCatchAll_sortedRules hr⟩
  · intro api resolved http grpc accountID hdesired haccount hget
    apply syncDocument_sends_none haccount hget
    rw [hdesired]
    exact rulesUnchanged_stored h

/-- Two rules of one host, one of them also deployed, and a rule to be removed. -/
theorem shop_document_converges :
    let deployed : List GetIngress :=
      [⟨"shop.example.com", "/cart*", "http://cart:80"⟩, ⟨"old.example.com", "", "http://old:80"⟩,
        ⟨"", "", "http_status:404"⟩]
    let desired : List UpdateIngress :=
      [⟨some "shop.example.com", none, some "http://web:80"⟩,
        ⟨some "shop.example.com", some "/cart*", some "http://cart:80"⟩]
    (finalRules deployed desired).map ruleFromUpdate =
      [⟨"shop.example.com", "/cart*", "http://cart:80"⟩, ⟨"shop.example.com", "", "http://web:80"⟩,
        ⟨"", "", "http_status:404"⟩] ∧
    rulesUnchanged ((finalRules deployed desired).map stored)
      (finalRules ((finalRules deployed desired).map stored) desired) = true :=
  ⟨by decide +kernel,
    (tunnel_document_converges _ _ (by decide +kernel)).2.2.2.2.1⟩

/-- A hostname field that is present but empty sorts first, is read back as an omitted
one, and then sorts last: the second sync writes again. -/
theorem empty_hostname_moves :
    let desired : List UpdateIngress :=
      [⟨some "", none, some "http://any:80"⟩, ⟨some "shop.example.com", none, some "http://web:80"⟩]
    (finalRules [] desired).map ruleFromUpdate =
      [⟨"", "", "http://any:80"⟩, ⟨"shop.example.com", "", "http://web:80"⟩,
        ⟨"", "", "http_status:404"⟩] ∧
    (finalRules ((finalRules [] desired).map stored) desired).map ruleFromUpdate =
      [⟨"shop.example.com", "", "http://web:80"⟩, ⟨"", "", "http://any:80"⟩,
        ⟨"", "", "http_status:404"⟩] ∧
    rulesUnchanged ((finalRules [] desired).map stored)
      (finalRules ((finalRules [] desired).map stored) desired) = false := by
  decide +kernel

/-- The API in front of one document, with no failing call. -/
def liveApi (document : List GetIngress) : TunnelApi where
  resolveAccountID resolved := .ok resolved.accountID
  getConfiguration _ _ := .ok document
  updateConfiguration _ _ _ := .ok ()

/-- The deployed document after a sync. -/
def afterSync (resolved : ResolvedConfig) (http grpc : BuildResult)
    (document : List GetIngress) : List GetIngress :=
  match (syncDocument (liveApi document) resolved http grpc).2 with
  | none => document
  | some rules => rules.map stored

theorem afterSync_eq (resolved : ResolvedConfig) (http grpc : BuildResult)
    (document : List GetIngress) :
    afterSync resolved http grpc document = document ∨
      afterSync resolved http grpc document =
        (finalRules document (mergeAndSortRules http.rules grpc.rules)).map stored := by
  rw [afterSync]
  simp only [syncDocument, liveApi]
  split
  · exact .inl rfl
  · next hsent =>
    split at hsent
    · cases hsent
    · split at hsent
      · cases hsent
      · cases hsent
        exact .inr rfl

/-- Further syncs of the same builds leave the document of the first one. -/
theorem iterate_afterSync (resolved : ResolvedConfig) {http grpc : BuildResult}
    (hhttp : HostsNamed http.rules) (hgrpc : HostsNamed grpc.rules) (document : List GetIngress)
    (n : ℕ) :
    (afterSync resolved http grpc)^[n + 1] document = afterSync resolved http grpc document := by
  have hfixed : afterSync resolved http grpc (afterSync resolved http grpc document) =
      afterSync resolved http grpc document := by
    rcases afterSync_eq resolved http grpc document with hkept | hwritten
    · rw [hkept, hkept]
    · rw [hwritten, afterSync, syncDocument_sends_none rfl rfl]
      exact rulesUnchanged_stored (hostsNamed_mergeAndSortRules hhttp hgrpc)
  induction n with
  | zero => rfl
  | succ n ih => rw [Function.iterate_succ_apply', ih, hfixed]

/-- In particular the syncs of one group of routes. -/
theorem iterate_syncTunnelGroup (objects : Objects) (lib : GoLib) (clusterDomain : String)
    (sorts : SliceSort) (group : TunnelGroup HTTPRouteRule GRPCRouteRule)
    (document : List GetIngress) (n : ℕ) :
    let sync := fun document => afterSync group.resolved
      (build objects lib clusterDomain httpRouteAdapter sorts (groupRoutes group).1)
      (build objects lib clusterDomain grpcRouteAdapter sorts (groupRoutes group).2) document
    sync^[n + 1] document = sync document :=
  iterate_afterSync group.resolved
    (hostsNamed_build objects lib clusterDomain sorts httpRouteAdapter (groupRoutes group).1)
    (hostsNamed_build objects lib clusterDomain sorts grpcRouteAdapter (groupRoutes group).2)
    document n

end Convergence

end TunnelGateway.TunnelSync
