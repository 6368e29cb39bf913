import TunnelGateway.BuildConfig

/-!
Whether a backend reference is authorized is decided twice. The ingress builder
decides it for the status of the route, the converter for the traffic. Both
classify the reference by group and kind and ask the ReferenceGrants of the
target namespace, but only the builder replaces the alias `core` of the core
group before it asks.
-/
namespace TunnelGateway.BackendAuthorization

open GoText GatewayApi RouteSpec ProxyConfig ClusterObjects ServiceTarget ClusterResolvers
  RouteConversion BackendPasses FailedRefs BuildConfig

section Kinds

variable (ref : BackendObjectReference)

theorem isSupportedBackendRef_iff :
    isSupportedBackendRef ref = true ↔
      ((ref.group.getD "" = "" ∨ ref.group.getD "" = "core") ∧ ref.kind.getD "Service" = "Service" ∨
        ref.group.getD "" = serviceImportGroup ∧ ref.kind.getD "Service" = serviceImportKind) ∨
      ref.group.getD "" = externalBackendGroup ∧ ref.kind.getD "Service" = externalBackendKind := by
  unfold isSupportedBackendRef isServiceBackendRef isServiceImportBackendRef isExternalBackendRef
  cases ref.group <;> cases ref.kind <;>
    simp [serviceImportGroup, serviceImportKind, externalBackendGroup, externalBackendKind]

/-- The core group under its own name. -/
def coreGroup (group : String) : String := if group = "core" then "" else group

/-- A classified reference is of a supported kind, and permission is asked for
its group and kind, with the core group under its own name. -/
theorem validateBackendGroupKind_spec (ref : RouteSpec.BackendRef) (routeNS routeName : String) :
    match validateBackendGroupKind routeNS routeName ref with
    | .ok target => isSupportedBackendRef ref.toBackendObjectReference = true ∧
        target.group = coreGroup (ref.group.getD "") ∧ target.kind = ref.kind.getD "Service"
    | .error err => isSupportedBackendRef ref.toBackendObjectReference = false ∧
        err.reason = .invalidKind := by
  rw [← Bool.not_eq_true, isSupportedBackendRef_iff]
  simp only [validateBackendGroupKind]
  split_ifs with hservice himport hexternal
  · refine ⟨Or.inl (Or.inl hservice), ?_, hservice.2.symm⟩
    rcases hservice.1 with hgroup | hgroup <;> rw [hgroup] <;> rfl
  · refine ⟨Or.inl (Or.inr himport), ?_, himport.2.symm⟩
    rw [himport.1]
    rfl
  · refine ⟨Or.inr hexternal, ?_, hexternal.2.symm⟩
    rw [hexternal.1]
    rfl
  · exact ⟨not_or.mpr ⟨not_or.mpr ⟨hservice, himport⟩, hexternal⟩, rfl⟩

end Kinds

section Permission

variable (objects : Objects) (kind : RouteKind) (routeNS : String) (ref : BackendObjectReference)

/-- A ReferenceGrant lets routes of the kind refer to the object, in this
spelling of its group. -/
def permitted (group : String) : Bool :=
  isReferenceAllowed objects ⟨groupName, routeKindName kind, routeNS, ""⟩
    ⟨group, ref.kind.getD "Service", refNamespace ref routeNS, ref.name⟩

/-- No grant is for a group spelled `core`: the grant's own spelling is
normalised before the two are compared. -/
theorem not_permitted_alias (hcross : refNamespace ref routeNS ≠ routeNS) :
    permitted objects kind routeNS ref "core" = false := by
  have hnone : ∀ target : ReferenceGrantTo,
      matchesTo target ⟨"core", ref.kind.getD "Service", refNamespace ref routeNS, ref.name⟩ =
        false := by
    intro target
    simp only [matchesTo]
    by_cases halias : target.group = "core" <;> simp [halias]
  simp [permitted, isReferenceAllowed, grantAllowsReference, hnone, Ne.symm hcross]

theorem validateCrossNamespace_eq (s : ProxySyncer) :
    validateCrossNamespace (s.resolvers kind) (refNamespace ref routeNS) routeNS ref =
      (decide (refNamespace ref routeNS = routeNS) ||
        permitted s.objects kind routeNS ref (ref.group.getD "")) :=
  rfl

end Permission

section Builder

variable (s : ProxySyncer) (kind : RouteKind) (routeNS routeName : String)

/-- The builder reports the reference for its kind or for lack of permission. -/
def Reported (ref : RouteSpec.BackendRef) : Prop :=
  ∃ err, resolveValidatedBackend s.objects s.lib s.clusterDomain kind routeNS routeName ref =
    .error err ∧ (err.reason = .invalidKind ∨ err.reason = .refNotPermitted)

/-- What is found out after permission is about the object. -/
theorem reason_of_resolveTarget {target : BackendTargetKind} {svc : ServiceKey}
    {err : BackendRefError}
    (h : resolveTarget s.objects s.lib s.clusterDomain routeNS routeName target svc = .error err) :
    err.reason = .backendNotFound ∨ err.reason = .unsupportedValue := by
  cases target <;> simp only [resolveTarget] at h <;> split at h
  · cases h
    exact Or.inl rfl
  · split at h <;> cases h
  · cases h
    exact Or.inl rfl
  · split at h <;> cases h
    exact Or.inl rfl
  · cases h
    exact Or.inl rfl
  · split at h <;> cases h
    exact Or.inr rfl

theorem reported_iff (ref : RouteSpec.BackendRef) :
    Reported s kind routeNS routeName ref ↔
      isSupportedBackendRef ref.toBackendObjectReference = false ∨
        (refNamespace ref.toBackendObjectReference routeNS ≠ routeNS ∧
          permitted s.objects kind routeNS ref.toBackendObjectReference
            (coreGroup (ref.group.getD "")) = false) := by
  have hspec := validateBackendGroupKind_spec ref routeNS routeName
  unfold Reported resolveValidatedBackend
  cases hkind : validateBackendGroupKind routeNS routeName ref <;> rw [hkind] at hspec
  case error err =>
    obtain ⟨hunsupported, hreason⟩ := hspec
    exact ⟨fun _ => Or.inl hunsupported, fun _ => ⟨err, rfl, Or.inl hreason⟩⟩
  case ok target =>
    obtain ⟨hsupported, hgroup, htarget⟩ := hspec
    have hasked : validateCrossNamespaceRef s.objects kind routeNS routeName target
        ⟨refNamespace ref.toBackendObjectReference routeNS, ref.name,
          refPort ref.toBackendObjectReference⟩ =
        permitted s.objects kind routeNS ref.toBackendObjectReference
          (coreGroup (ref.group.getD "")) := by
      rw [validateCrossNamespaceRef, hgroup, htarget]
      rfl
    simp only [hasked, hsupported, Bool.true_eq_false, false_or]
    split
    · rename_i hdenied
      have hcross := Ne.symm hdenied.1
      have hnot : permitted s.objects kind routeNS ref.toBackendObjectReference
          (coreGroup (ref.group.getD "")) = false := by simpa using hdenied.2
      exact ⟨fun _ => ⟨hcross, hnot⟩, fun _ => ⟨_, rfl, Or.inr rfl⟩⟩
    · rename_i hpassed
      constructor
      · intro h
        obtain ⟨err, herr, hreason⟩ := h
        have hother := reason_of_resolveTarget s routeNS routeName herr
        rcases hreason with hreason | hreason <;> rcases hother with hother | hother <;>
          rw [hreason] at hother <;> cases hother
      · intro h
        exact absurd ⟨Ne.symm h.1, by simpa using h.2⟩ hpassed

end Builder

section Converter

/-- A filter the converter cannot serve on a backend. -/
def unsupportedHTTPFilter (filter : HTTPRouteFilter) : Bool :=
  match filter.type with
  | .extensionRef | .externalAuth | .other _ => true
  | _ => false

def unsupportedGRPCFilter (filter : GRPCRouteFilter) : Bool :=
  match filter.type with
  | .requestMirror | .extensionRef | .other _ => true
  | _ => false

theorem convertFilter_snd (resolvers : Resolvers) (ns : String)
    (clientCert : Option ClientCertConfig) (filter : HTTPRouteFilter) :
    (convertFilter resolvers ns clientCert filter).2 = unsupportedHTTPFilter filter := by
  unfold convertFilter unsupportedHTTPFilter
  cases filter.type <;> rfl

theorem convertGRPCFilter_snd (filter : GRPCRouteFilter) :
    (convertGRPCFilter filter).2 = unsupportedGRPCFilter filter := by
  unfold convertGRPCFilter unsupportedGRPCFilter
  cases filter.type <;> rfl

/-- The reference passes the checks that do not depend on the kind of route. -/
structure Admitted (resolvers : Resolvers) (ref : BackendObjectReference) (routeNS : String) :
    Prop where
  kind : isSupportedBackendRef ref = true
  port : isExternalBackendRef ref = false → validatePort (refPort ref) = true
  cross : validateCrossNamespace resolvers (refNamespace ref routeNS) routeNS ref = true

/-- What a conversion makes of a reference: nothing where it carries no traffic,
a 500 where it is not admitted, and otherwise a backend that is available only if
its filters are supported and TLS is configured where the port asks for it. -/
inductive Conversion (resolvers : Resolvers) (ref : RouteSpec.BackendRef) (routeNS : String)
    (unsupported : Bool) : Option ProxyConfig.BackendRef → Prop
  | nothing (hweight : refWeight ref ≤ 0) : Conversion resolvers ref routeNS unsupported none
  | invalid {b : ProxyConfig.BackendRef}
      (hrefused : ¬ Admitted resolvers ref.toBackendObjectReference routeNS)
      (hstatus : b.unavailableStatus = statusInternalServerError) :
      Conversion resolvers ref routeNS unsupported (some b)
  | backend {b : ProxyConfig.BackendRef}
      (hadmitted : Admitted resolvers ref.toBackendObjectReference routeNS)
      (hstatus : b.unavailableStatus = statusInternalServerError → unsupported = true)
      (hfilters : unsupported = true → b.unavailableStatus ≠ 0)
      (htls : isExternalBackendRef ref.toBackendObjectReference = false →
        isTLSAppProtocol (resolvers.protocolResolver
          (refNamespace ref.toBackendObjectReference routeNS) ref.name
          (refPort ref.toBackendObjectReference)) = true →
        b.unavailableStatus = 0 → b.tls ≠ none) :
      Conversion resolvers ref routeNS unsupported (some b)

variable {resolvers : Resolvers} {ref : RouteSpec.BackendRef} {routeNS : String}

variable {unsupported : Bool} {filters : List RouteFilter × Bool} {b : ProxyConfig.BackendRef}

theorem conversion_invalid (hrefused : ¬ Admitted resolvers ref.toBackendObjectReference routeNS)
    (port : ℤ) :
    Conversion resolvers ref routeNS unsupported (markInvalidBackend (refWeight ref) ref.name
      (refNamespace ref.toBackendObjectReference routeNS) port resolvers.clusterDomain) := by
  unfold markInvalidBackend
  split
  · rename_i hweight
    exact .nothing hweight
  · exact .invalid hrefused rfl

theorem applyBackendTransport_spec (clientCert : Option ClientCertConfig)
    (backend : ProxyConfig.BackendRef) (h : backend.unavailableStatus = 0) (ns name : String)
    (port : ℤ) :
    let b := applyBackendTransport resolvers clientCert backend ns name port
    b.unavailableStatus ≠ statusInternalServerError ∧
      (isTLSAppProtocol (resolvers.protocolResolver ns name port) = true →
        b.unavailableStatus = 0 → b.tls ≠ none) := by
  intro b
  have hstatus : b.unavailableStatus =
      if isTLSAppProtocol (resolvers.protocolResolver ns name port) && !b.tls.isSome then
        statusBadGateway else 0 := by
    rw [← h, ← failClosed_resolveBackendProtocol resolvers ns name port
      (resolveBackendTLS resolvers ns name port backend.url).2]
    rfl
  rw [hstatus]
  refine ⟨?_, ?_⟩
  · split <;> decide
  · intro htls havailable hnone
    rw [htls, hnone] at havailable
    cases havailable

theorem applyGRPCBackendTransport_spec (clientCert : Option ClientCertConfig)
    (backend : ProxyConfig.BackendRef) (ns name : String) (port : ℤ) :
    let b := applyGRPCBackendTransport resolvers clientCert backend ns name port
    (b.unavailableStatus = backend.unavailableStatus ∨ b.unavailableStatus = statusBadGateway) ∧
      (isTLSAppProtocol (resolvers.protocolResolver ns name port) = true → b.tls = none →
        b.unavailableStatus = statusBadGateway) := by
  intro b
  simp only [b, applyGRPCBackendTransport]
  split
  · rename_i hattached
    refine ⟨Or.inl rfl, ?_⟩
    intro _ hnone
    dsimp only at hnone
    rw [hnone] at hattached
    cases hattached
  · split
    · exact ⟨Or.inr rfl, fun _ _ => rfl⟩
    · rename_i happ
      exact ⟨Or.inl rfl, fun h => absurd h happ⟩

/-- Filters come on top of a backend that is already resolved. -/
theorem conversion_applyFilters
    (hadmitted : Admitted resolvers ref.toBackendObjectReference routeNS)
    (hstatus : b.unavailableStatus ≠ statusInternalServerError)
    (htls : isExternalBackendRef ref.toBackendObjectReference = false →
      isTLSAppProtocol (resolvers.protocolResolver
        (refNamespace ref.toBackendObjectReference routeNS) ref.name
        (refPort ref.toBackendObjectReference)) = true →
      b.unavailableStatus = 0 → b.tls ≠ none) :
    Conversion resolvers ref routeNS filters.2 (some (applyFilters b filters)) := by
  cases hfailing : filters.2 with
  | true =>
    have hmarked : (applyFilters b filters).unavailableStatus = statusInternalServerError :=
      if_pos hfailing
    refine .backend hadmitted (fun _ => rfl) ?_ ?_
    · intro _
      rw [hmarked]
      decide
    · intro _ _ havailable
      rw [hmarked] at havailable
      cases havailable
  | false =>
    have hkept : (applyFilters b filters).unavailableStatus = b.unavailableStatus :=
      if_neg (Bool.eq_false_iff.mp hfailing)
    refine .backend hadmitted ?_ ?_ ?_
    · intro h
      exact absurd (hkept.symm.trans h) hstatus
    · intro h
      cases h
    · intro hinternal happ havailable
      exact htls hinternal happ (hkept.symm.trans havailable)

/-- What the conversions of both kinds of routes have in common. -/
theorem conversion_of_common {external : ℤ → String → String → ProxyConfig.BackendRef}
    {service : ProxyConfig.BackendRef → String → String → ℤ → ProxyConfig.BackendRef}
    (hexternal : ∀ svcNamespace serviceName, ∃ b, b.unavailableStatus = 0 ∧
      external (refWeight ref) svcNamespace serviceName = applyFilters b filters)
    (hservice : Admitted resolvers ref.toBackendObjectReference routeNS → ∀ url,
      Conversion resolvers ref routeNS filters.2
        (some (service { weight := refWeight ref, url := url }
          (refNamespace ref.toBackendObjectReference routeNS) ref.name
          (refPort ref.toBackendObjectReference)))) :
    Conversion resolvers ref routeNS filters.2
      (convertCommon resolvers routeNS ref external service) := by
  simp only [convertCommon, resolveCommonBackendRef, validateCommonBackendRef]
  split_ifs with hweight hkind hext hport hcross
  · exact .nothing hweight.le
  · refine conversion_invalid ?_ _
    intro h
    simp [h.kind] at hkind
  · dsimp only
    split_ifs with hcross
    · refine conversion_invalid ?_ _
      intro h
      simp [h.cross] at hcross
    · obtain ⟨b, hstatus, hb⟩ := hexternal (refNamespace ref.toBackendObjectReference routeNS) ref.name
      rw [hb]
      refine conversion_applyFilters ⟨by simpa using hkind, ?_, by simpa using hcross⟩ ?_ ?_
      · intro hinternal
        simp [hext] at hinternal
      · rw [hstatus]
        decide
      · intro hinternal
        simp [hext] at hinternal
  · refine conversion_invalid ?_ _
    intro h
    simp [h.port (by simpa using hext)] at hport
  · refine conversion_invalid ?_ _
    intro h
    simp [h.cross] at hcross
  · exact hservice ⟨by simpa using hkind, fun _ => by simpa using hport, by simpa using hcross⟩ _

theorem conversion_http (lib : GoLib) (resolvers : Resolvers) (routeNS : String)
    (clientCert : Option ClientCertConfig) (ref : HTTPBackendRef) :
    Conversion resolvers ref.toBackendRef routeNS (ref.filters.any unsupportedHTTPFilter)
      (convertBackendRef lib resolvers routeNS clientCert ref) := by
  have hfilters : (collectFilters
      (ref.filters.map (convertFilter resolvers routeNS clientCert))).2 =
      ref.filters.any unsupportedHTTPFilter := by
    simp [collectFilters, Function.comp_def, convertFilter_snd]
  rw [← hfilters]
  refine conversion_of_common (fun _ _ => ⟨_, rfl, rfl⟩) ?_
  intro hadmitted url
  obtain ⟨hstatus, htls⟩ := applyBackendTransport_spec clientCert
    { weight := refWeight ref.toBackendRef, url := url } rfl _ _ _
  exact conversion_applyFilters hadmitted hstatus fun _ => htls

/-- On the gRPC side the transport comes on top of the filters. -/
theorem conversion_grpc (lib : GoLib) (resolvers : Resolvers) (routeNS : String)
    (clientCert : Option ClientCertConfig) (ref : GRPCBackendRef) :
    Conversion resolvers ref.toBackendRef routeNS (ref.filters.any unsupportedGRPCFilter)
      (convertGRPCBackendRef lib resolvers routeNS clientCert ref) := by
  have hfilters : (collectFilters (ref.filters.map convertGRPCFilter)).2 =
      ref.filters.any unsupportedGRPCFilter := by
    simp [collectFilters, Function.comp_def, convertGRPCFilter_snd]
  rw [← hfilters]
  refine conversion_of_common (fun _ _ => ⟨_, rfl, rfl⟩) ?_
  intro hadmitted url
  obtain ⟨hstatus, htls⟩ := applyGRPCBackendTransport_spec clientCert
    (applyGRPCBackendFilters { weight := refWeight ref.toBackendRef, url := url } ref.filters)
    (refNamespace ref.toBackendObjectReference routeNS) ref.name
    (refPort ref.toBackendObjectReference)
  refine .backend hadmitted ?_ ?_ ?_
  · intro h
    by_contra hsupported
    have hkept := hstatus.resolve_right (by rw [h]; decide)
    rw [h] at hkept
    have hzero : (applyGRPCBackendFilters { weight := refWeight ref.toBackendRef, url := url }
        ref.filters).unavailableStatus = 0 := if_neg hsupported
    rw [hzero] at hkept
    cases hkept
  · intro hunsupported
    have hmarked : (applyGRPCBackendFilters { weight := refWeight ref.toBackendRef, url := url }
        ref.filters).unavailableStatus = statusInternalServerError := if_pos hunsupported
    rw [hmarked] at hstatus
    rcases hstatus with h | h <;> rw [h] <;> decide
  · intro _ happ havailable hnone
    rw [htls happ hnone] at havailable
    cases havailable

end Converter

section Agreement

/-- The backend answers 500 whatever its filters are. -/
def Refused {F : Type} (conversion : List F → Option ProxyConfig.BackendRef) : Prop :=
  ∀ filters, ∃ b ∈ conversion filters, b.unavailableStatus = statusInternalServerError

variable {ref : RouteSpec.BackendRef}

/-- With traffic and a valid port, only kind and permission lead to a refusal. -/
theorem refused_iff {F : Type} {conversion : List F → Option ProxyConfig.BackendRef}
    {unsupported : F → Bool} {resolvers : Resolvers} {routeNS : String} (hconversion : ∀ filters,
      Conversion resolvers ref routeNS (filters.any unsupported) (conversion filters))
    (hweight : 0 < refWeight ref)
    (hport : validatePort (refPort ref.toBackendObjectReference) = true) :
    Refused conversion ↔ isSupportedBackendRef ref.toBackendObjectReference = false ∨
      validateCrossNamespace resolvers (refNamespace ref.toBackendObjectReference routeNS) routeNS
        ref.toBackendObjectReference = false := by
  have hadmitted : ¬ Admitted resolvers ref.toBackendObjectReference routeNS ↔
      isSupportedBackendRef ref.toBackendObjectReference = false ∨
      validateCrossNamespace resolvers (refNamespace ref.toBackendObjectReference routeNS) routeNS
        ref.toBackendObjectReference = false := by
    rw [← not_iff_not, not_not, not_or, Bool.not_eq_false, Bool.not_eq_false]
    exact ⟨fun h => ⟨h.kind, h.cross⟩, fun h => ⟨h.1, fun _ => hport, h.2⟩⟩
  rw [← hadmitted]
  constructor
  · intro h
    obtain ⟨b, hb, hstatus⟩ := h []
    have hspec := hconversion []
    rw [hb] at hspec
    cases hspec with
    | invalid hrefused _ => exact hrefused
    | backend _ hfails _ _ => exact absurd (hfails hstatus) (by simp)
  · intro hnot filters
    have hspec := hconversion filters
    generalize conversion filters = converted at hspec ⊢
    cases hspec with
    | nothing hzero => exact absurd hweight (not_lt.mpr hzero)
    | invalid _ hstatus => exact ⟨_, rfl, hstatus⟩
    | backend hadmitted _ _ _ => exact absurd hadmitted hnot

variable (s : ProxySyncer) (routeNS routeName : String) (clientCert : Option ClientCertConfig)

/-- The backend of a reference under filters that may differ from its own. -/
def httpConversion (ref : HTTPBackendRef) (filters : List HTTPRouteFilter) :
    Option ProxyConfig.BackendRef :=
  convertBackendRef s.lib (s.resolvers .HTTPRoute) routeNS clientCert
    { ref with filters := filters }

def grpcConversion (ref : GRPCBackendRef) (filters : List GRPCRouteFilter) :
    Option ProxyConfig.BackendRef :=
  convertGRPCBackendRef s.lib (s.resolvers .GRPCRoute) routeNS clientCert
    { ref with filters := filters }

/-- A Service of another namespace, referred to by the alias `core` of its group
and permitted by a ReferenceGrant. -/
structure AliasPermitted (objects : Objects) (kind : RouteKind) (routeNS : String)
    (ref : BackendObjectReference) : Prop where
  group : ref.group = some "core"
  service : ref.kind.getD "Service" = "Service"
  cross : refNamespace ref routeNS ≠ routeNS
  granted : permitted objects kind routeNS ref "" = true

/-- Builder and converter ask for the same permission but for the alias. -/
theorem checks_agree_iff (kind : RouteKind) {refused : Prop} (hrefused : refused ↔
      isSupportedBackendRef ref.toBackendObjectReference = false ∨
      validateCrossNamespace (s.resolvers kind) (refNamespace ref.toBackendObjectReference routeNS)
        routeNS ref.toBackendObjectReference = false) :
    (Reported s kind routeNS routeName ref ↔ refused) ↔
      ¬ AliasPermitted s.objects kind routeNS ref.toBackendObjectReference := by
  rw [hrefused, reported_iff, validateCrossNamespace_eq, Bool.or_eq_false_iff]
  by_cases hgroup : ref.group.getD "" = "core"
  · have hcore : ref.group = some "core" := by
      cases hoption : ref.group with
      | none => simp [hoption] at hgroup
      | some group => simpa [hoption] using hgroup
    rw [hgroup]
    by_cases hservice : ref.kind.getD "Service" = "Service"
    · have hkind : isSupportedBackendRef ref.toBackendObjectReference = true := by
        simp [isSupportedBackendRef_iff, hgroup, hservice]
      by_cases hcross : refNamespace ref.toBackendObjectReference routeNS = routeNS
      · have hnot : ¬ AliasPermitted s.objects kind routeNS ref.toBackendObjectReference :=
          fun h => h.cross hcross
        simp [hcross, hnot]
      · -- The builder goes by the grants, the converter refuses in any case.
        have hrefused := not_permitted_alias s.objects kind routeNS _ hcross
        have halias : AliasPermitted s.objects kind routeNS ref.toBackendObjectReference ↔
            permitted s.objects kind routeNS ref.toBackendObjectReference "" = true :=
          ⟨fun h => h.granted, fun h => ⟨hcore, hservice, hcross, h⟩⟩
        simp [hkind, hcross, hrefused, halias, coreGroup]
    · have hkind : isSupportedBackendRef ref.toBackendObjectReference = false := by
        rw [← Bool.not_eq_true, isSupportedBackendRef_iff]
        simp [hgroup, hservice, serviceImportGroup, externalBackendGroup]
      have hnot : ¬ AliasPermitted s.objects kind routeNS ref.toBackendObjectReference :=
        fun h => hservice h.service
      simp [hkind, hnot]
  · have hsame : coreGroup (ref.group.getD "") = ref.group.getD "" := if_neg hgroup
    have hnot : ¬ AliasPermitted s.objects kind routeNS ref.toBackendObjectReference := by
      intro h
      apply hgroup
      rw [h.group]
      rfl
    simp [hsame, hnot]

/-- Status and traffic agree on every reference with traffic and a valid port,
except where a grant permits a Service that is referred to by the alias. -/
theorem authorization_agrees_iff :
    (∀ ref : HTTPBackendRef, 0 < refWeight ref.toBackendRef →
      validatePort (refPort ref.toBackendObjectReference) = true →
      ((Reported s .HTTPRoute routeNS routeName ref.toBackendRef ↔
          Refused (httpConversion s routeNS clientCert ref)) ↔
        ¬ AliasPermitted s.objects .HTTPRoute routeNS ref.toBackendObjectReference)) ∧
    (∀ ref : GRPCBackendRef, 0 < refWeight ref.toBackendRef →
      validatePort (refPort ref.toBackendObjectReference) = true →
      ((Reported s .GRPCRoute routeNS routeName ref.toBackendRef ↔
          Refused (grpcConversion s routeNS clientCert ref)) ↔
        ¬ AliasPermitted s.objects .GRPCRoute routeNS ref.toBackendObjectReference)) := by
  constructor
  · intro ref hweight hport
    apply checks_agree_iff
    exact refused_iff (fun filters => conversion_http s.lib _ routeNS clientCert
      { ref with filters := filters }) hweight hport
  · intro ref hweight hport
    apply checks_agree_iff
    exact refused_iff (fun filters => conversion_grpc s.lib _ routeNS clientCert
      { ref with filters := filters }) hweight hport

def webService : Service :=
  ⟨.of "shop" "web", .other "ClusterIP", "10.0.0.1", [⟨"http", 80, .number 8080, none⟩]⟩

/-- HTTPRoutes of one namespace may refer to the Services of another one. -/
def shopGrant : ReferenceGrant :=
  ⟨"shop", [⟨groupName, "HTTPRoute", "site"⟩], [⟨"", "Service", none⟩]⟩

def grantedSyncer : ProxySyncer where
  objects :=
    { gateways := []
      listenerSets := []
      gatewayClasses := []
      namespaces := []
      labelSelectorAsSelector := fun _ => none
      referenceGrants := [shopGrant]
      services := [webService]
      parsesCABundle := fun _ => true
      x509KeyPair := fun _ _ => true }
  lib := .literal
  clusterDomain := "cluster.local"
  controllerName := "example.com/tunnel"

def webRef (group : Option String) : HTTPBackendRef :=
  { group := group, name := "web", ns := some "shop" }

/-- A granted reference that leaves the group out is taken by both. -/
theorem webRef_agrees :
    (Reported grantedSyncer .HTTPRoute "site" "front" (webRef none).toBackendRef ↔
      Refused (httpConversion grantedSyncer "site" none (webRef none))) ∧
    ¬ Reported grantedSyncer .HTTPRoute "site" "front" (webRef none).toBackendRef := by
  have hnot : ¬ AliasPermitted grantedSyncer.objects .HTTPRoute "site"
      (webRef none).toBackendObjectReference := fun h => by cases h.group
  refine ⟨((authorization_agrees_iff grantedSyncer "site" "front" none).1 (webRef none)
    (by decide) (by decide)).mpr hnot, ?_⟩
  rw [reported_iff]
  decide +kernel

/-- With the group spelled out the route's status stays clean and its traffic
fails. -/
theorem aliased_service_refused :
    0 < refWeight (webRef (some "core")).toBackendRef ∧
    validatePort (refPort (webRef (some "core")).toBackendObjectReference) = true ∧
    ¬ Reported grantedSyncer .HTTPRoute "site" "front" (webRef (some "core")).toBackendRef ∧
    Refused (httpConversion grantedSyncer "site" none (webRef (some "core"))) := by
  have hweight : 0 < refWeight (webRef (some "core")).toBackendRef := by decide
  have hport : validatePort (refPort (webRef (some "core")).toBackendObjectReference) = true := by
    decide
  refine ⟨hweight, hport, ?_, ?_⟩
  · rw [reported_iff]
    decide +kernel
  · apply (refused_iff (fun filters => conversion_http grantedSyncer.lib _ "site" none
      { webRef (some "core") with filters := filters }) hweight hport).mpr
    right
    decide +kernel

end Agreement

end TunnelGateway.BackendAuthorization
