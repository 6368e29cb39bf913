import Mathlib.Data.Prod.Lex
import Mathlib.Data.String.Basic
import TunnelGateway.MergeInvariants
import TunnelGateway.RulePasses

/-!
The order in which the API lists the objects of a cluster. Objects are looked up
by name, grants and endpoints are asked for any that fits, endpoints are sorted,
and of several policies or ListenerSets the oldest comes first, so that nothing
in a built configuration shows that order.
-/
namespace TunnelGateway.ObjectOrder

open GoText GatewayApi RouteSpec ProxyConfig ClusterObjects ServiceTarget ClusterResolvers
open RouteBinding ListenerMerge MergeInvariants ParentBinding EffectiveHostnames RouteConversion
open BackendPasses FailedRefs BuildConfig BackendFate RouteOrigin EndpointProbes RulePasses DedupBy
open AgeOrder

section Clusters

/-- The same objects, listed in another order. -/
structure Reordered (cluster cluster' : Cluster) : Prop where
  gateways : cluster.gateways.Perm cluster'.gateways
  listenerSets : cluster.listenerSets.Perm cluster'.listenerSets
  gatewayClasses : cluster.gatewayClasses.Perm cluster'.gatewayClasses
  namespaces : cluster.namespaces.Perm cluster'.namespaces
  selectors : cluster.labelSelectorAsSelector = cluster'.labelSelectorAsSelector

/-- Objects of a kind have names of their own. -/
structure NamedApart (cluster : Cluster) : Prop where
  gateways : (cluster.gateways.map Gateway.id).Nodup
  listenerSets : (cluster.listenerSets.map ListenerSet.id).Nodup
  gatewayClasses : (cluster.gatewayClasses.map GatewayClass.name).Nodup
  namespaces : (cluster.namespaces.map Namespace.name).Nodup

/-- A lookup by a name that no two objects share. -/
theorem find?_eq_of_name {α κ : Type*} {name : α → κ} {l l' : List α} (hperm : l.Perm l')
    (hnodup : (l.map name).Nodup) {p : α → Bool}
    (hp : ∀ a b, p a = true → p b = true → name a = name b) : l.find? p = l'.find? p := by
  refine find?_eq_of_perm hperm ?_
  intro a ha b hb hpa hpb
  exact List.inj_on_of_nodup_map hnodup ha hb (hp a b hpa hpb)

theorem id_eq_of_named {id id' : NamespacedName} {ns name : String}
    (h : (id.ns = ns && id.name = name) = true) (h' : (id'.ns = ns && id'.name = name) = true) :
    id = id' := by
  simp only [Bool.and_eq_true, decide_eq_true_eq] at h h'
  exact NamespacedName.ext (h.1.trans h'.1.symm) (h.2.trans h'.2.symm)

variable {cluster cluster' : Cluster} (hsame : Reordered cluster cluster')
  (hnames : NamedApart cluster)

include hsame hnames

theorem getGateway_eq (ns name : String) : cluster.getGateway ns name = cluster'.getGateway ns name :=
  find?_eq_of_name hsame.gateways hnames.gateways fun _ _ h h' => id_eq_of_named h h'

theorem getListenerSet_eq (ns name : String) :
    cluster.getListenerSet ns name = cluster'.getListenerSet ns name :=
  find?_eq_of_name hsame.listenerSets hnames.listenerSets fun _ _ h h' => id_eq_of_named h h'

theorem getGatewayClass_eq (name : String) :
    cluster.getGatewayClass name = cluster'.getGatewayClass name := by
  refine find?_eq_of_name hsame.gatewayClasses hnames.gatewayClasses ?_
  intro a b h h'
  exact (of_decide_eq_true h).trans (of_decide_eq_true h').symm

theorem getNamespace_eq (name : String) : cluster.getNamespace name = cluster'.getNamespace name := by
  refine find?_eq_of_name hsame.namespaces hnames.namespaces ?_
  intro a b h h'
  exact (of_decide_eq_true h).trans (of_decide_eq_true h').symm

theorem namespaceMatchesSelector_eq :
    namespaceMatchesSelector cluster = namespaceMatchesSelector cluster' := by
  funext selector routeNamespace
  simp [namespaceMatchesSelector, hsame.selectors, getNamespace_eq hsame hnames]

theorem evaluateListenerBinding_eq (lib : GoLib) :
    evaluateListenerBinding cluster lib = evaluateListenerBinding cluster' lib := by
  have hallowed : isNamespaceAllowed cluster = isNamespaceAllowed cluster' := by
    funext allowedRoutes gatewayNamespace routeNamespace
    simp [isNamespaceAllowed, namespaceMatchesSelector_eq hsame hnames]
  funext listener parentNamespace route
  simp [evaluateListenerBinding, hallowed]

theorem validateEntries_eq (lib : GoLib) :
    validateEntries cluster lib = validateEntries cluster' lib := by
  funext parentNamespace entries route
  simp [validateEntries, evaluateListenerBinding_eq hsame hnames]

omit hsame hnames in
/-- A selector is valid for every namespace or for none. -/
theorem namespaceMatchesSelector_uniform (cluster : Cluster) (selector : Option LabelSelector) :
    (∃ p : String → Bool, ∀ ns, namespaceMatchesSelector cluster selector ns = .ok (p ns)) ∨
      ∃ err, ∀ ns, namespaceMatchesSelector cluster selector ns = .error err := by
  cases selector with
  | none => exact Or.inl ⟨fun _ => false, fun _ => rfl⟩
  | some selector =>
    cases hselects : cluster.labelSelectorAsSelector selector with
    | none =>
      refine Or.inr ⟨"invalid label selector", ?_⟩
      intro ns
      rw [namespaceMatchesSelector, hselects]
    | some selects =>
      refine Or.inl ⟨fun ns => (cluster.getNamespace ns).any fun found => selects found.labels, ?_⟩
      intro ns
      simp only [namespaceMatchesSelector, hselects]
      cases cluster.getNamespace ns with
      | none => rfl
      | some found => rfl

omit hsame hnames in
/-- A Gateway accepts by a filter, or fails for every set alike. -/
theorem acceptance_uniform (cluster : Cluster) (gateway : Gateway) :
    (∃ p : ListenerSet → Bool, ∀ ls,
      (evaluateListenerSetAcceptance cluster gateway ls).map ListenerSetAcceptance.accepted =
        .ok (p ls)) ∨
    ∃ err, ∀ ls,
      (evaluateListenerSetAcceptance cluster gateway ls).map ListenerSetAcceptance.accepted =
        .error err := by
  simp only [evaluateListenerSetAcceptance]
  cases (gateway.allowedListeners.bind NamespaceFilter.source).getD .none with
  | all => exact Or.inl ⟨fun _ => true, fun _ => rfl⟩
  | same =>
    refine Or.inl ⟨fun ls => gateway.id.ns = ls.id.ns, ?_⟩
    intro ls
    by_cases h : gateway.id.ns = ls.id.ns
    · simp [h, Except.map]
    · simp [h, Except.map]
  | selector =>
    rcases namespaceMatchesSelector_uniform cluster
      (gateway.allowedListeners.bind NamespaceFilter.selector) with ⟨p, hp⟩ | ⟨err, herr⟩
    · refine Or.inl ⟨fun ls => p ls.id.ns, ?_⟩
      intro ls
      cases hns : p ls.id.ns with
      | true => simp [hp, hns, Except.map]
      | false => simp [hp, hns, Except.map]
    · refine Or.inr ⟨err, ?_⟩
      intro ls
      simp [herr, Except.map]
  | none => exact Or.inl ⟨fun _ => false, fun _ => rfl⟩

omit hsame hnames in
theorem acceptedFromCandidates_cases (cluster : Cluster) (gateway : Gateway) :
    (∃ p, ∀ l, acceptedFromCandidates cluster gateway l = .ok (l.filter p)) ∨
      ∃ err, ∀ l, l ≠ [] → acceptedFromCandidates cluster gateway l = .error err := by
  simp only [acceptedFromCandidates]
  rcases acceptance_uniform cluster gateway with ⟨p, hp⟩ | ⟨err, herr⟩
  · refine Or.inl ⟨p, fun l => Fallible.filterM_ok ?_⟩
    intro ls _
    rw [hp]
    rfl
  · refine Or.inr ⟨"failed to evaluate listenerset acceptance" ++ ": " ++ err,
      fun l hne => Fallible.filterM_error hne ?_⟩
    intro ls _
    rw [herr]
    rfl

theorem mergedView_eq (gateway : Gateway) :
    mergedView cluster gateway = mergedView cluster' gateway := by
  have hcandidates : (listTargetingListenerSets cluster gateway).Perm
      (listTargetingListenerSets cluster' gateway) := hsame.listenerSets.filter _
  have hnodup : ((listTargetingListenerSets cluster gateway).map ListenerSet.id).Nodup :=
    hnames.listenerSets.sublist (List.filter_sublist.map _)
  have htest : acceptedFromCandidates cluster' gateway = acceptedFromCandidates cluster gateway := by
    funext candidates
    simp [acceptedFromCandidates, evaluateListenerSetAcceptance,
      namespaceMatchesSelector_eq hsame hnames]
  rw [mergedView, mergedView, htest]
  rcases acceptedFromCandidates_cases cluster gateway with ⟨p, hp⟩ | ⟨err, herr⟩
  · rw [hp, hp]
    exact congrArg Except.ok (merge_eq_of_perm (hnodup.sublist (List.filter_sublist.map _))
      (hcandidates.filter p))
  · by_cases hnil : listTargetingListenerSets cluster gateway = []
    · rw [hnil] at hcandidates
      rw [hnil, List.nil_perm.mp hcandidates]
    · have hnil' : listTargetingListenerSets cluster' gateway ≠ [] := by
        intro h
        rw [h] at hcandidates
        exact hnil (List.perm_nil.mp hcandidates)
      rw [herr _ hnil, herr _ hnil']

variable (lib : GoLib) {Rule : Type} (kind : RouteKind) (route : Route Rule)

theorem parentListeners_eq (routeNamespace : String) :
    parentListeners cluster routeNamespace = parentListeners cluster' routeNamespace := by
  funext ref
  simp [parentListeners, getGateway_eq hsame hnames, getListenerSet_eq hsame hnames]

/-- The same listeners take a route. -/
theorem parentRefSections_eq (ref : ParentReference) :
    parentRefSections cluster lib kind route ref = parentRefSections cluster' lib kind route ref := by
  have hgateway : gatewaySections cluster lib = gatewaySections cluster' lib := by
    funext ns name info
    simp [gatewaySections, validateBinding, getGateway_eq hsame hnames,
      validateEntries_eq hsame hnames]
  have hconflicts : nonConflictedSections cluster = nonConflictedSections cluster' := by
    funext listenerSet sections
    simp [nonConflictedSections, listenerSetParentGateway, getGateway_eq hsame hnames,
      mergedView_eq hsame hnames]
  have hset : listenerSetSections cluster lib = listenerSetSections cluster' lib := by
    funext ns name info
    simp [listenerSetSections, validateBindingForListenerSet, hconflicts,
      getListenerSet_eq hsame hnames, validateEntries_eq hsame hnames]
  simp [parentRefSections, hgateway, hset]

theorem withEffectiveHostname_eq_of_reordered :
    withEffectiveHostname cluster lib kind route = withEffectiveHostname cluster' lib kind route := by
  have href : effectiveHostnamesForParentRef cluster lib kind route =
      effectiveHostnamesForParentRef cluster' lib kind route := by
    funext ref
    simp [effectiveHostnamesForParentRef, parentListeners_eq hsame hnames,
      parentRefSections_eq hsame hnames]
  rw [withEffectiveHostname, withEffectiveHostname, collectEffectiveListenerHostnames,
    collectEffectiveListenerHostnames, href]

theorem acceptedListenerScheme_eq :
    acceptedListenerScheme cluster lib kind route = acceptedListenerScheme cluster' lib kind route := by
  have href : acceptedProtocolsForParentRef cluster lib kind route =
      acceptedProtocolsForParentRef cluster' lib kind route := by
    funext ref
    simp [acceptedProtocolsForParentRef, parentListeners_eq hsame hnames,
      parentRefSections_eq hsame hnames]
  rw [acceptedListenerScheme, acceptedListenerScheme, href]

end Clusters

section AllObjects

/-- The same objects of every kind, each listed in another order. -/
structure ReorderedObjects (objects objects' : Objects) : Prop where
  cluster : Reordered objects.toCluster objects'.toCluster
  secrets : objects.secrets.Perm objects'.secrets
  referenceGrants : objects.referenceGrants.Perm objects'.referenceGrants
  services : objects.services.Perm objects'.services
  endpointSlices : objects.endpointSlices.Perm objects'.endpointSlices
  serviceImports : objects.serviceImports.Perm objects'.serviceImports
  externalBackends : objects.externalBackends.Perm objects'.externalBackends
  configMaps : objects.configMaps.Perm objects'.configMaps
  backendTLSPolicies : objects.backendTLSPolicies.Perm objects'.backendTLSPolicies
  parsesCABundle : objects.parsesCABundle = objects'.parsesCABundle
  x509KeyPair : objects.x509KeyPair = objects'.x509KeyPair

structure ObjectsNamedApart (objects : Objects) : Prop where
  cluster : NamedApart objects.toCluster
  secrets : (objects.secrets.map Secret.id).Nodup
  services : (objects.services.map Service.id).Nodup
  externalBackends : (objects.externalBackends.map ExternalBackend.id).Nodup
  configMaps : (objects.configMaps.map ConfigMap.id).Nodup
  backendTLSPolicies : (objects.backendTLSPolicies.map BackendTLSPolicy.id).Nodup

variable {objects objects' : Objects} (hsame : ReorderedObjects objects objects')
  (hnames : ObjectsNamedApart objects)

include hsame

theorem checkSecretReferenceGrantForGateway_eq :
    checkSecretReferenceGrantForGateway objects = checkSecretReferenceGrantForGateway objects' := by
  funext gateway targetNamespace ref
  exact (hsame.referenceGrants.filter _).any_eq

theorem serviceHasReadyEndpoint_eq (ns serviceName : String) :
    serviceHasReadyEndpoint objects ns serviceName =
      serviceHasReadyEndpoint objects' ns serviceName :=
  (hsame.endpointSlices.filter _).any_eq

theorem newBackendRefValidator_eq (kind : RouteKind) :
    newBackendRefValidator objects kind = newBackendRefValidator objects' kind := by
  funext fromNamespace ref
  simp only [newBackendRefValidator, isReferenceAllowed, (hsame.referenceGrants.filter _).any_eq]

include hnames

theorem getSecret_eq (ns name : String) : objects.getSecret ns name = objects'.getSecret ns name :=
  find?_eq_of_name hsame.secrets hnames.secrets fun _ _ h h' => id_eq_of_named h h'

theorem getService_eq (ns name : String) :
    objects.getService ns name = objects'.getService ns name :=
  find?_eq_of_name hsame.services hnames.services fun _ _ h h' => id_eq_of_named h h'

theorem getExternalBackend_eq (ns name : String) :
    objects.getExternalBackend ns name = objects'.getExternalBackend ns name :=
  find?_eq_of_name hsame.externalBackends hnames.externalBackends
    fun _ _ h h' => id_eq_of_named h h'

theorem getConfigMap_eq (ns name : String) :
    objects.getConfigMap ns name = objects'.getConfigMap ns name :=
  find?_eq_of_name hsame.configMaps hnames.configMaps fun _ _ h h' => id_eq_of_named h h'

theorem newBackendProtocolResolver_eq :
    newBackendProtocolResolver objects = newBackendProtocolResolver objects' := by
  funext ns serviceName port
  simp [newBackendProtocolResolver, getService_eq hsame hnames]

omit hsame hnames in
/-- The stamp that policies of one namespace are compared by. -/
def policyStamp (policy : BackendTLSPolicy) : Stamp :=
  ⟨policy.creationTimestamp, policy.id.name, ""⟩

omit hsame hnames in
theorem isPolicyOlder_iff (candidate incumbent : BackendTLSPolicy) :
    isPolicyOlder candidate incumbent = true ↔
      ¬ (policyStamp incumbent).Precedes (policyStamp candidate) := by
  have hname : candidate.id.name < incumbent.id.name ↔ ¬ (incumbent.id.name < candidate.id.name ∨
      incumbent.id.name = candidate.id.name) := by
    rw [← le_iff_lt_or_eq, String.not_le]
  unfold isPolicyOlder
  simp only [Stamp.Precedes, policyStamp, String.le_refl, and_true]
  split
  · rename_i hlt
    simp only [true_iff]
    omega
  · split
    · rename_i hgt
      simp only [Bool.false_eq_true, false_iff, not_not]
      exact Or.inl hgt
    · rename_i hge hle
      have heq : incumbent.creationTimestamp = candidate.creationTimestamp := by omega
      rw [decide_eq_true_eq, hname]
      simp [heq]

omit hsame hnames in
/-- The loop over the policies keeps the oldest one that targets the port. -/
theorem selectPolicyForServicePort_eq (objects : Objects) (policies : List BackendTLSPolicy)
    (ns serviceName : String) (port : ℤ) :
    selectPolicyForServicePort objects policies ns serviceName port =
      (policies.filter (policyTargetsServicePort · serviceName
        (lookupServicePortName objects ns serviceName port))).foldl (keepOldest isPolicyOlder)
          none := by
  rw [List.foldl_filter, selectPolicyForServicePort]
  congr 1
  funext best policy
  cases policyTargetsServicePort policy serviceName
      (lookupServicePortName objects ns serviceName port) with
  | false => rfl
  | true =>
    cases best with
    | none => rfl
    | some incumbent => rfl

theorem newBackendTLSResolver_eq :
    newBackendTLSResolver objects = newBackendTLSResolver objects' := by
  funext ns serviceName port
  have htls : policyTLS objects = policyTLS objects' := by
    funext policy
    have hcert : resolveCACertificate objects policy = resolveCACertificate objects' policy := by
      funext ref
      simp [resolveCACertificate, getConfigMap_eq hsame hnames, hsame.parsesCABundle]
    simp [policyTLS, resolveCABundlePEM, hcert]
  have hport : lookupServicePortName objects ns serviceName port =
      lookupServicePortName objects' ns serviceName port := by
    simp [lookupServicePortName, getService_eq hsame hnames]
  simp only [newBackendTLSResolver, selectPolicyForServicePort_eq, htls, hport]
  refine congrArg _ (foldl_keepOldest_eq_of_perm isPolicyOlder_iff
    ((hsame.backendTLSPolicies.filter _).filter _) ?_)
  intro a ha b hb hstamp
  obtain ⟨hamem, hans⟩ := List.mem_filter.mp (List.mem_of_mem_filter ha)
  obtain ⟨hbmem, hbns⟩ := List.mem_filter.mp (List.mem_of_mem_filter hb)
  have hname : a.id.name = b.id.name := congrArg Stamp.first hstamp
  have hns : a.id.ns = b.id.ns := (of_decide_eq_true hans).trans (of_decide_eq_true hbns).symm
  exact List.inj_on_of_nodup_map hnames.backendTLSPolicies hamem hbmem (NamespacedName.ext hns hname)

theorem newGatewayClientCertResolver_eq (controllerName : String) :
    newGatewayClientCertResolver objects controllerName =
      newGatewayClientCertResolver objects' controllerName := by
  have hload : loadGatewayClientCertPEM objects = loadGatewayClientCertPEM objects' := by
    funext gateway
    simp [loadGatewayClientCertPEM, checkSecretReferenceGrantForGateway_eq hsame,
      getSecret_eq hsame hnames, hsame.x509KeyPair]
  have hmanaged : ∀ gateway, gatewayManagedByController objects gateway controllerName =
      gatewayManagedByController objects' gateway controllerName := by
    intro gateway
    rw [gatewayManagedByController, gatewayManagedByController,
      getGatewayClass_eq hsame.cluster hnames.cluster]
  funext ns name
  simp [newGatewayClientCertResolver, hload, hmanaged,
    getGateway_eq hsame.cluster hnames.cluster]

omit hsame hnames in
def address (endpoint : ResolvedEndpoint) : String ×ₗ ℤ := toLex (endpoint.host, endpoint.port)

omit hsame hnames in
theorem endpointPrecedes_iff (left right : ResolvedEndpoint) :
    endpointPrecedes left right ↔ address left ≤ address right := by
  rw [address, address, Prod.Lex.toLex_le_toLex]
  rfl

omit hsame hnames in
/-- Endpoints are sorted in one way. -/
theorem insertionSort_endpoints_eq {l l' : List ResolvedEndpoint} (h : l.Perm l') :
    l.insertionSort endpointPrecedes = l'.insertionSort endpointPrecedes := by
  have : Std.Total endpointPrecedes := by
    refine ⟨?_⟩
    intro a b
    rw [endpointPrecedes_iff, endpointPrecedes_iff]
    exact le_total _ _
  have : IsTrans ResolvedEndpoint endpointPrecedes := by
    refine ⟨?_⟩
    intro a b c
    rw [endpointPrecedes_iff, endpointPrecedes_iff, endpointPrecedes_iff]
    exact le_trans
  have : Std.Antisymm endpointPrecedes := by
    refine ⟨?_⟩
    intro a b hab hba
    rw [endpointPrecedes_iff] at hab hba
    have heq := toLex_inj.mp (le_antisymm hab hba)
    cases a
    cases b
    cases heq
    rfl
  exact List.Perm.eq_of_pairwise' (List.pairwise_insertionSort _ _)
    (List.pairwise_insertionSort _ _)
    ((List.perm_insertionSort _ l).trans (h.trans (List.perm_insertionSort _ l').symm))

theorem headlessProbe_eq (key : ServiceKey) :
    headlessProbe objects key = headlessProbe objects' key := by
  have hresolve : ∀ svc, resolveHeadlessEndpoints objects svc key =
      resolveHeadlessEndpoints objects' svc key := by
    intro svc
    have hslices : (objects.endpointSlicesOf key.ns key.name).Perm
        (objects'.endpointSlicesOf key.ns key.name) := hsame.endpointSlices.filter _
    exact Prod.ext (insertionSort_endpoints_eq ((hslices.map _).flatMap_right _))
      (hslices.map _).any_eq
  simp [headlessProbe, getService_eq hsame hnames, hresolve]

theorem externalRule_eq (lib : GoLib) (rule : RouteRule) :
    externalRule lib objects rule = externalRule lib objects' rule := by
  have hbackend : resolveExternalBackend lib objects = resolveExternalBackend lib objects' := by
    funext backend
    simp [resolveExternalBackend, getExternalBackend_eq hsame hnames]
  rw [externalRule, externalRule, hbackend]

end AllObjects

section Routes

variable {Rule : Type}

def routeStamp (route : Route Rule) : Stamp :=
  ⟨route.creationTimestamp, route.id.ns, route.id.name⟩

/-- Prepared routes are converted in the order of their age. -/
theorem convertRoutesGeneric_eq_of_perm
    (certResolver : String → String → Option ClientCertConfig) (kind : RouteKind)
    (convertRule : String → List String → Option ClientCertConfig → Rule → RouteRule)
    {prepare : Route Rule → Route Rule} (hprepare : ∀ route, (prepare route).id = route.id)
    {routes routes' : List (Route Rule)} (hperm : routes.Perm routes')
    (hnodup : (routes.map Route.id).Nodup) :
    convertRoutesGeneric certResolver kind convertRule (routes.map prepare) =
      convertRoutesGeneric certResolver kind convertRule (routes'.map prepare) := by
  have hids : ((routes.map prepare).map Route.id).Nodup := by
    simpa only [List.map_map, Function.comp_def, hprepare] using hnodup
  have hsorted : sortRoutesByPrecedence (routes.map prepare) =
      sortRoutesByPrecedence (routes'.map prepare) := by
    refine insertionSort_eq_of_perm routeStamp routePrecedes (fun _ _ => Iff.rfl)
      (hperm.map prepare) ?_
    intro a ha b hb hstamp
    have hid : a.id = b.id :=
      NamespacedName.ext (congrArg Stamp.first hstamp) (congrArg Stamp.second hstamp)
    exact List.inj_on_of_nodup_map hids ha hb hid
  rw [convertRoutesGeneric, convertRoutesGeneric, hsorted]

end Routes

section Builds

variable {s : ProxySyncer} {objects' : Objects} (hsame : ReorderedObjects s.objects objects')
  (hnames : ObjectsNamedApart s.objects)

include hsame hnames

theorem resolvers_eq (kind : RouteKind) :
    s.resolvers kind = ProxySyncer.resolvers { s with objects := objects' } kind := by
  simp [ProxySyncer.resolvers, newBackendRefValidator_eq hsame,
    newBackendProtocolResolver_eq hsame hnames, newBackendTLSResolver_eq hsame hnames]

theorem prepareHTTPRoute_eq :
    prepareHTTPRoute s = prepareHTTPRoute { s with objects := objects' } := by
  funext route
  simp [prepareHTTPRoute, defaultRedirectSchemeForRoute,
    withEffectiveHostname_eq_of_reordered hsame.cluster hnames.cluster,
    acceptedListenerScheme_eq hsame.cluster hnames.cluster]

theorem prepareGRPCRoute_eq :
    prepareGRPCRoute s = prepareGRPCRoute { s with objects := objects' } := by
  funext route
  exact withEffectiveHostname_eq_of_reordered hsame.cluster hnames.cluster s.lib .GRPCRoute route

theorem gatewayCertResolver_eq :
    s.gatewayCertResolver = ProxySyncer.gatewayCertResolver { s with objects := objects' } :=
  newGatewayClientCertResolver_eq hsame hnames s.controllerName

theorem httpRules_eq {routes routes' : List HTTPRoute} (hperm : routes.Perm routes')
    (hnodup : (routes.map Route.id).Nodup) :
    s.httpRules routes = ProxySyncer.httpRules { s with objects := objects' } routes' := by
  rw [ProxySyncer.httpRules, ProxySyncer.httpRules, preparedHTTPRoutes_eq, preparedHTTPRoutes_eq, ← prepareHTTPRoute_eq hsame hnames,
    ← resolvers_eq hsame hnames, ← gatewayCertResolver_eq hsame hnames]
  exact convertRoutesGeneric_eq_of_perm _ _ _ (fun route => (prepareHTTPRoute_frame s route).1)
    hperm hnodup

theorem grpcRules_eq {grpcRoutes grpcRoutes' : List GRPCRoute} (hperm : grpcRoutes.Perm grpcRoutes')
    (hnodup : (grpcRoutes.map Route.id).Nodup) :
    s.grpcRules grpcRoutes = ProxySyncer.grpcRules { s with objects := objects' } grpcRoutes' := by
  rw [ProxySyncer.grpcRules, ProxySyncer.grpcRules, ← resolvers_eq hsame hnames, ← gatewayCertResolver_eq hsame hnames]
  have hprepared : ProxySyncer.preparedGRPCRoutes { s with objects := objects' } grpcRoutes' =
      grpcRoutes'.map (prepareGRPCRoute s) := by
    rw [prepareGRPCRoute_eq hsame hnames]
    rfl
  rw [hprepared]
  exact convertRoutesGeneric_eq_of_perm _ _ _ (fun route => (prepareGRPCRoute_frame s route).1)
    hperm hnodup

/-- Up to the marking of failed references no order shows. -/
theorem markedRules_eq_of_reordered {set set' : RouteSet} (hhttp : set.http.Perm set'.http)
    (hgrpc : set.grpc.Perm set'.grpc)
    {failedRefs failedRefs' grpcFailedRefs grpcFailedRefs' : List BackendRefError}
    (hfailed : failedRefs.Perm failedRefs') (hgrpcFailed : grpcFailedRefs.Perm grpcFailedRefs') :
    s.markedRules set.http set.grpc failedRefs grpcFailedRefs =
      ProxySyncer.markedRules { s with objects := objects' } set'.http set'.grpc failedRefs'
        grpcFailedRefs' := by
  have hmark : ∀ {refs refs' : List BackendRefError}, refs.Perm refs' → ∀ rules,
      s.markFailedRefs refs rules =
        ProxySyncer.markFailedRefs { s with objects := objects' } refs' rules := by
    intro refs refs' hperm rules
    rw [markFailedRefs_eq, markFailedRefs_eq]
    refine congrArg (mapRules · rules) ?_
    funext rule
    exact failedRule_eq_of_perm s hperm rule
  simp [ProxySyncer.markedRules, hmark hfailed, hmark hgrpcFailed,
    httpRules_eq hsame hnames hhttp set.http_nodup, grpcRules_eq hsame hnames hgrpc set.grpc_nodup,
    hgrpc.isEmpty_eq]

/-- Nor does the order of the objects in what a Service is found to be. -/
theorem headlessRule_eq (key : ServiceKey) (rule : RouteRule) :
    headlessRule s.lib s.objects s.clusterDomain key rule =
      headlessRule s.lib objects' s.clusterDomain key rule := by
  rw [headlessRule, headlessRule, headlessProbe_eq hsame hnames]

theorem zeroEndpointRule_eq (key : ServiceKey) (rule : RouteRule) :
    zeroEndpointRule s.lib s.objects s.clusterDomain key rule =
      zeroEndpointRule s.lib objects' s.clusterDomain key rule := by
  have hzero : zeroEndpoints s.objects key = zeroEndpoints objects' key := by
    simp [zeroEndpoints, getService_eq hsame hnames, serviceHasReadyEndpoint_eq hsame]
  rw [zeroEndpointRule, zeroEndpointRule, hzero]

theorem visitedRefs_eq (routes : List HTTPRoute) (grpcRoutes : List GRPCRoute) :
    visitedRefs { s with objects := objects' } routes grpcRoutes =
      visitedRefs s routes grpcRoutes := by
  have hgrpc : ∀ s : ProxySyncer,
      s.preparedGRPCRoutes grpcRoutes = grpcRoutes.map (prepareGRPCRoute s) := fun _ => rfl
  rw [visitedRefs, visitedRefs, preparedHTTPRoutes_eq, preparedHTTPRoutes_eq, hgrpc, hgrpc,
    ← prepareHTTPRoute_eq hsame hnames, ← prepareGRPCRoute_eq hsame hnames]

omit hsame hnames in
theorem visitedRefs_perm {set set' : RouteSet} (hhttp : set.http.Perm set'.http)
    (hgrpc : set.grpc.Perm set'.grpc) :
    (visitedRefs s set.http set.grpc).Perm (visitedRefs s set'.http set'.grpc) := by
  rw [visitedRefs, visitedRefs, preparedHTTPRoutes_eq, preparedHTTPRoutes_eq]
  exact ((hhttp.map _).flatMap_right _).append ((hgrpc.map _).flatMap_right _)

end Builds

end TunnelGateway.ObjectOrder
