import TunnelGateway.BuildConfig

/-!
One reference converted in three places: as a backend of an HTTPRoute, as a
backend of a GRPCRoute and as the destination of a mirror. The route kinds decide
the transport alike and differ in which failure is written last; a mirror follows
the TLS policy of its destination and does not look at the appProtocol at all.
-/
namespace TunnelGateway.TransportAgreement

open GoText GatewayApi RouteSpec ProxyConfig ClusterObjects ServiceTarget RouteConversion BuildConfig

section Schemes

def Cleartext (url : String) : Prop := hasPrefix url (schemeHTTP ++ "://") = true

def Secured (url : String) : Prop := hasPrefix url (schemeHTTPS ++ "://") = true

instance (url : String) : Decidable (Cleartext url) := by
  unfold Cleartext
  infer_instance

instance (url : String) : Decidable (Secured url) := by
  unfold Secured
  infer_instance

theorem secured_https (rest : String) : Secured (schemeHTTPS ++ "://" ++ rest) :=
  hasPrefix_append _ rest

/-- The schemes part at their fifth character. -/
theorem not_cleartext_of_secured {url : String} (h : Secured url) : ¬ Cleartext url := by
  intro hclear
  obtain ⟨rest, hrest⟩ := (hasPrefix_iff _ _).mp h
  obtain ⟨rest', hrest'⟩ := (hasPrefix_iff _ _).mp hclear
  have hsecured : (schemeHTTPS ++ "://").toList = ['h', 't', 't', 'p', 's', ':', '/', '/'] := by
    decide
  have hplain : (schemeHTTP ++ "://").toList = ['h', 't', 't', 'p', ':', '/', '/'] := by decide
  rw [← hrest', hsecured, hplain] at hrest
  simp at hrest

theorem buildServiceURL_scheme (name ns : String) (port : ℤ) (domain : String) :
    port = httpsPort ∧ Secured (buildServiceURL name ns port domain) ∨
      port ≠ httpsPort ∧ Cleartext (buildServiceURL name ns port domain) := by
  by_cases hport : port = httpsPort
  · rw [buildServiceURL, serviceScheme, if_pos hport]
    exact .inl ⟨hport, secured_https _⟩
  · rw [buildServiceURL, serviceScheme, if_neg hport]
    exact .inr ⟨hport, hasPrefix_append _ _⟩

theorem secured_forced_serviceURL (name ns : String) (port : ℤ) (domain : String) :
    Secured (forceHTTPSScheme (buildServiceURL name ns port domain)) := by
  rw [forceHTTPSScheme]
  split
  · exact secured_https _
  · next hnot =>
    rcases buildServiceURL_scheme name ns port domain with ⟨-, h⟩ | ⟨-, h⟩
    · exact h
    · exact absurd h hnot

end Schemes

section Mirrors

variable (resolvers : Resolvers)

/-- The appProtocol of a Service port asks for TLS and no policy gives it a trust anchor. -/
def Unpoliced (ns name : String) (port : ℤ) : Prop :=
  resolvers.tlsResolver ns name port = none ∧
    isTLSAppProtocol (resolvers.protocolResolver ns name port) = true

instance (ns name : String) (port : ℤ) : Decidable (Unpoliced resolvers ns name port) := by
  unfold Unpoliced
  infer_instance

/-- The mirror is dialed as securely as the same reference would be as a backend. -/
structure Honours (ns name : String) (port : ℤ) (main : ProxyConfig.BackendRef)
    (mirror : MirrorConfig) : Prop where
  cleartext : Cleartext mirror.backendURL →
    Cleartext main.url ∧ main.tls = none ∧ main.unavailableStatus = 0
  tls : ∀ tls, main.tls = some tls → mirror.tls = some tls ∧ Secured mirror.backendURL
  h2c : main.protocol = .h2c → mirror.protocol = .h2c
  unpoliced : Unpoliced resolvers ns name port → ¬ Cleartext mirror.backendURL

/-- What a mirror misses because it does not look at the appProtocol. -/
def Missed (ns name : String) (port : ℤ) : Prop :=
  resolvers.tlsResolver ns name port = none ∧
    (resolvers.protocolResolver ns name port = appProtocolH2C ∨
      isTLSAppProtocol (resolvers.protocolResolver ns name port) = true ∧ port ≠ httpsPort)

instance (ns name : String) (port : ℤ) : Decidable (Missed resolvers ns name port) := by
  unfold Missed
  infer_instance

variable (ns name : String) (port : ℤ)

/-- Without a policy the appProtocol decides. -/
theorem protocol_of_no_tls (url : String) :
    ((resolveBackendProtocol resolvers ns name port url false).1 = .h2c ↔
        resolvers.protocolResolver ns name port = appProtocolH2C) ∧
      (resolvers.protocolResolver ns name port ≠ appProtocolH2C →
        (resolveBackendProtocol resolvers ns name port url false).2.1 = url) := by
  simp only [resolveBackendProtocol]
  split_ifs with hh2c
  · exact ⟨iff_of_true rfl hh2c, fun hne => absurd hh2c hne⟩
  all_goals exact ⟨iff_of_false (by simp) hh2c, fun _ => rfl⟩

variable (clientCert : Option ClientCertConfig)

theorem attachGatewayClientCert_isSome (tls : Option BackendTLSConfig) :
    (attachGatewayClientCert tls clientCert).isSome = tls.isSome := by
  cases tls <;> cases clientCert <;> rfl

/-- The Service URL of a backend or of a mirror. -/
def refURL (ref : BackendObjectReference) (ns : String) (port : ℤ) : String :=
  buildServiceURL ref.name ns port (backendDomain ref resolvers.clusterDomain)

theorem not_external_of_mirrorable {ref : BackendObjectReference}
    (h : isMirrorableBackendRef ref = true) : isExternalBackendRef ref = false := by
  have hgroup : ref.group ≠ some externalBackendGroup := by
    intro hgroup
    rw [isMirrorableBackendRef, isServiceBackendRef, isServiceImportBackendRef, hgroup] at h
    revert h
    simp [externalBackendGroup, serviceImportGroup]
  simp [isExternalBackendRef, hgroup]

variable {mirror : HTTPRequestMirrorFilter} {weight : Option ℤ} {mirrorNS routeNS : String}
  {mirrorPort : ℤ}

/-- A reference that is mirrored is resolved as a backend, whatever its weight. -/
theorem resolveCommonBackendRef_of_mirrored
    (h : validateMirrorBackendRef resolvers mirror routeNS = some (mirrorNS, mirrorPort))
    (hweight : 0 ≤ weight.getD 1) :
    resolveCommonBackendRef resolvers ⟨mirror.backendRef, weight⟩ routeNS =
      .resolved { weight := weight.getD 1, url := refURL resolvers mirror.backendRef mirrorNS mirrorPort }
        mirrorNS mirror.backendRef.name mirrorPort := by
  simp only [validateMirrorBackendRef, Bool.not_eq_true'] at h
  split_ifs at h with hkind hport hcross
  cases h
  rw [Bool.not_eq_false] at hkind hport hcross
  have hsupported : isSupportedBackendRef mirror.backendRef = true := by
    exact Bool.or_eq_true_iff.mpr (.inl hkind)
  simp only [resolveCommonBackendRef, refWeight, not_lt.mpr hweight, validateCommonBackendRef, hsupported, not_external_of_mirrorable hkind, hport, hcross]
  rfl

/-- The same reference among the backends of a rule, without filters of its own. -/
def asBackend (ref : BackendObjectReference) (weight : Option ℤ) : HTTPBackendRef where
  toBackendRef := ⟨ref, weight⟩

theorem convertBackendRef_of_mirrored (lib : GoLib)
    (h : validateMirrorBackendRef resolvers mirror routeNS = some (mirrorNS, mirrorPort))
    (hweight : 0 ≤ weight.getD 1) :
    convertBackendRef lib resolvers routeNS clientCert (asBackend mirror.backendRef weight) =
      some (applyBackendTransport resolvers clientCert
        { weight := weight.getD 1, url := refURL resolvers mirror.backendRef mirrorNS mirrorPort }
        mirrorNS mirror.backendRef.name mirrorPort) := by
  rw [convertBackendRef, asBackend, resolveCommonBackendRef_of_mirrored resolvers h hweight]
  rfl

variable {mirror : HTTPRequestMirrorFilter} {mirrorNS : String} {mirrorPort : ℤ}

theorem mirrorConfig_of_policy {tls : BackendTLSConfig}
    (htls : resolvers.tlsResolver mirrorNS mirror.backendRef.name mirrorPort = some tls) :
    mirrorConfig resolvers clientCert mirror mirrorNS mirrorPort =
      { backendURL := forceHTTPSScheme (refURL resolvers mirror.backendRef mirrorNS mirrorPort)
        percent := mirrorPercent mirror
        tls := attachGatewayClientCert (some tls) clientCert } := by
  simp only [mirrorConfig, resolveBackendTLS, htls]
  rfl

theorem mirrorConfig_of_no_policy
    (htls : resolvers.tlsResolver mirrorNS mirror.backendRef.name mirrorPort = none) :
    mirrorConfig resolvers clientCert mirror mirrorNS mirrorPort =
      { backendURL := refURL resolvers mirror.backendRef mirrorNS mirrorPort
        percent := mirrorPercent mirror } := by
  simp only [mirrorConfig, resolveBackendTLS, htls]
  rfl

theorem honours_of_policy {tls : BackendTLSConfig}
    (htls : resolvers.tlsResolver mirrorNS mirror.backendRef.name mirrorPort = some tls)
    (weight : ℤ) :
    Honours resolvers mirrorNS mirror.backendRef.name mirrorPort
      (applyBackendTransport resolvers clientCert
        { weight := weight, url := refURL resolvers mirror.backendRef mirrorNS mirrorPort }
        mirrorNS mirror.backendRef.name mirrorPort)
      (mirrorConfig resolvers clientCert mirror mirrorNS mirrorPort) := by
  have hattached : (attachGatewayClientCert (some tls) clientCert).isSome = true :=
    attachGatewayClientCert_isSome clientCert (some tls)
  have hsecured : Secured
      (forceHTTPSScheme (refURL resolvers mirror.backendRef mirrorNS mirrorPort)) :=
    secured_forced_serviceURL _ _ _ _
  rw [mirrorConfig_of_policy resolvers clientCert htls]
  constructor
  · intro hclear
    exact absurd hclear (not_cleartext_of_secured hsecured)
  · intro tls' htls'
    simp only [applyBackendTransport, resolveBackendTLS, htls] at htls'
    exact ⟨htls', hsecured⟩
  · intro hh2c
    -- A policy settles the protocol.
    simp only [applyBackendTransport, resolveBackendTLS, htls, hattached,
      resolveBackendProtocol] at hh2c
    split_ifs at hh2c
    cases hh2c
  · intro _
    exact not_cleartext_of_secured hsecured

/-- Without a policy the mirror is right exactly where the appProtocol asks for nothing that
the port alone does not give. -/
theorem honours_of_no_policy_iff
    (htls : resolvers.tlsResolver mirrorNS mirror.backendRef.name mirrorPort = none) (weight : ℤ) :
    Honours resolvers mirrorNS mirror.backendRef.name mirrorPort
        (applyBackendTransport resolvers clientCert
          { weight := weight, url := refURL resolvers mirror.backendRef mirrorNS mirrorPort }
          mirrorNS mirror.backendRef.name mirrorPort)
        (mirrorConfig resolvers clientCert mirror mirrorNS mirrorPort) ↔
      ¬ Missed resolvers mirrorNS mirror.backendRef.name mirrorPort := by
  have hnone : attachGatewayClientCert none clientCert = none := rfl
  obtain ⟨hprotocol, hurl⟩ := protocol_of_no_tls resolvers mirrorNS mirror.backendRef.name mirrorPort (refURL resolvers mirror.backendRef mirrorNS mirrorPort)
  have hclear : Cleartext (refURL resolvers mirror.backendRef mirrorNS mirrorPort) ↔
      mirrorPort ≠ httpsPort := by
    rcases buildServiceURL_scheme _ _ _ _ with ⟨hport, hsecured⟩ | ⟨hport, hclear⟩
    · exact iff_of_false (not_cleartext_of_secured hsecured) fun h => h hport
    · exact iff_of_true hclear hport
  rw [mirrorConfig_of_no_policy resolvers clientCert htls]
  simp only [applyBackendTransport, resolveBackendTLS, htls, hnone, Option.isSome_none,
    failClosed_resolveBackendProtocol, Bool.not_false, Bool.and_true]
  constructor
  · rintro ⟨-, -, hh2c, hunpoliced⟩ ⟨-, hmissed | ⟨hproto, hport⟩⟩
    · cases hh2c (hprotocol.mpr hmissed)
    · exact hunpoliced ⟨htls, hproto⟩ (hclear.mpr hport)
  · intro hnot
    rw [Missed, and_iff_right htls, not_or, not_and_not_right] at hnot
    obtain ⟨hh2c, hport⟩ := hnot
    constructor
    · intro hplain
      have hproto : ¬ isTLSAppProtocol
          (resolvers.protocolResolver mirrorNS mirror.backendRef.name mirrorPort) = true :=
        fun hproto => hclear.mp hplain (hport hproto)
      rw [hurl hh2c, if_neg hproto]
      exact ⟨hplain, rfl, rfl⟩
    · intro tls htls
      cases htls
    · intro h
      exact absurd (hprotocol.mp h) hh2c
    · intro hunpoliced hplain
      exact hclear.mp hplain (hport hunpoliced.2)

/-- A mirror that is emitted honours the transport of the same reference as a backend exactly
when it misses nothing. -/
theorem mirror_honours_iff (lib : GoLib) (mirror : HTTPRequestMirrorFilter) (routeNS : String)
    {filter : RouteFilter}
    (hemitted : convertMirrorFilter resolvers (some mirror) routeNS clientCert = some filter)
    (weight : Option ℤ) (hweight : 0 ≤ weight.getD 1) :
    ∃ cfg main, filter.requestMirror = some cfg ∧
      convertBackendRef lib resolvers routeNS clientCert (asBackend mirror.backendRef weight) =
        some main ∧
      (Honours resolvers (refNamespace mirror.backendRef routeNS) mirror.backendRef.name
          (refPort mirror.backendRef) main cfg ↔
        ¬ Missed resolvers (refNamespace mirror.backendRef routeNS) mirror.backendRef.name
          (refPort mirror.backendRef)) := by
  rw [convertMirrorFilter, Option.bind_some] at hemitted
  obtain ⟨⟨mirrorNS, mirrorPort⟩, hvalid, rfl⟩ := Option.map_eq_some_iff.mp hemitted
  have hmain := convertBackendRef_of_mirrored resolvers clientCert lib hvalid hweight
  obtain ⟨rfl, rfl⟩ : refNamespace mirror.backendRef routeNS = mirrorNS ∧
      refPort mirror.backendRef = mirrorPort := by
    simp only [validateMirrorBackendRef] at hvalid
    split_ifs at hvalid
    cases hvalid
    exact ⟨rfl, rfl⟩
  refine ⟨_, _, rfl, hmain, ?_⟩
  cases htls : resolvers.tlsResolver (refNamespace mirror.backendRef routeNS)
      mirror.backendRef.name (refPort mirror.backendRef) with
  | none => exact honours_of_no_policy_iff resolvers clientCert htls _
  | some tls =>
    refine iff_of_true (honours_of_policy resolvers clientCert htls _) ?_
    rintro ⟨hnone, -⟩
    rw [htls] at hnone
    cases hnone

end Mirrors

section RouteKinds

/-- The parts of a backend that both kinds of routes have to agree on. -/
def verdict (backend : ProxyConfig.BackendRef) : ℤ × Option BackendTLSConfig × ℤ :=
  (backend.weight, backend.tls, backend.unavailableStatus)

/-- One filter in its two spellings: a header modifier, or a type the kind does not serve. -/
inductive SameFilter : HTTPRouteFilter → GRPCRouteFilter → Prop where
  | requestHeaders {f : HTTPRouteFilter} {g : GRPCRouteFilter}
      (hf : f.type = .requestHeaderModifier) (hg : g.type = .requestHeaderModifier)
      (hsame : f.requestHeaderModifier = g.requestHeaderModifier) : SameFilter f g
  | responseHeaders {f : HTTPRouteFilter} {g : GRPCRouteFilter}
      (hf : f.type = .responseHeaderModifier) (hg : g.type = .responseHeaderModifier)
      (hsame : f.responseHeaderModifier = g.responseHeaderModifier) : SameFilter f g
  | unsupported {f : HTTPRouteFilter} {g : GRPCRouteFilter}
      (hf : f.type = .extensionRef ∨ f.type = .externalAuth ∨ ∃ value, f.type = .other value)
      (hg : g.type = .requestMirror ∨ g.type = .extensionRef ∨ ∃ value, g.type = .other value) :
      SameFilter f g

theorem convert_sameFilter (resolvers : Resolvers) (ns : String)
    (clientCert : Option ClientCertConfig) {f : HTTPRouteFilter} {g : GRPCRouteFilter}
    (h : SameFilter f g) : convertFilter resolvers ns clientCert f = convertGRPCFilter g := by
  cases h with
  | requestHeaders hf hg hsame => rw [convertFilter, convertGRPCFilter, hf, hg, hsame]
  | responseHeaders hf hg hsame => rw [convertFilter, convertGRPCFilter, hf, hg, hsame]
  | unsupported hf hg =>
    have hhttp : convertFilter resolvers ns clientCert f = (none, true) := by
      rcases hf with hf | hf | ⟨value, hf⟩ <;> rw [convertFilter, hf]
    have hgrpc : convertGRPCFilter g = (none, true) := by
      rcases hg with hg | hg | ⟨value, hg⟩ <;> rw [convertGRPCFilter, hg]
    rw [hhttp, hgrpc]

theorem collect_sameFilters (resolvers : Resolvers) (ns : String)
    (clientCert : Option ClientCertConfig) {filters : List HTTPRouteFilter}
    {grpcFilters : List GRPCRouteFilter} (h : List.Forall₂ SameFilter filters grpcFilters) :
    collectFilters (filters.map (convertFilter resolvers ns clientCert)) =
      collectFilters (grpcFilters.map convertGRPCFilter) := by
  congr 1
  induction h with
  | nil => rfl
  | cons hhead _ ih => rw [List.map_cons, List.map_cons, convert_sameFilter _ _ _ hhead, ih]

/-- A reference that fails for two reasons: a filter the kind does not serve, and an
appProtocol that asks for TLS where no policy applies. -/
def FailsTwice (resolvers : Resolvers) (ns : String) (ref : GRPCBackendRef) : Prop :=
  (collectFilters (ref.filters.map convertGRPCFilter)).2 = true ∧
    match resolveCommonBackendRef resolvers ref.toBackendRef ns with
    | .resolved _ svcNamespace serviceName port => Unpoliced resolvers svcNamespace serviceName port
    | _ => False

instance (resolvers : Resolvers) (ns : String) (ref : GRPCBackendRef) :
    Decidable (FailsTwice resolvers ns ref) := by
  unfold FailsTwice
  split <;> infer_instance

/-- Both kinds attach the same TLS settings; the failures are written in opposite orders. -/
theorem verdict_transports (resolvers : Resolvers) (clientCert : Option ClientCertConfig)
    (backend : ProxyConfig.BackendRef) (ns name : String) (port : ℤ)
    (filters : List RouteFilter × Bool) :
    verdict (applyFilters (applyBackendTransport resolvers clientCert backend ns name port)
        filters) =
      (backend.weight, attachGatewayClientCert (resolvers.tlsResolver ns name port) clientCert,
        if filters.2 then statusInternalServerError
        else if Unpoliced resolvers ns name port then statusBadGateway
        else backend.unavailableStatus) ∧
    verdict (applyGRPCBackendTransport resolvers clientCert (applyFilters backend filters)
        ns name port) =
      (backend.weight, attachGatewayClientCert (resolvers.tlsResolver ns name port) clientCert,
        if Unpoliced resolvers ns name port then statusBadGateway
        else if filters.2 then statusInternalServerError else backend.unavailableStatus) := by
  cases htls : resolvers.tlsResolver ns name port with
  | none =>
    have hnone : attachGatewayClientCert none clientCert = none := rfl
    have hunpoliced : Unpoliced resolvers ns name port ↔
        isTLSAppProtocol (resolvers.protocolResolver ns name port) = true := and_iff_right htls
    constructor
    · simp [verdict, applyFilters, applyBackendTransport, resolveBackendTLS, htls, hnone,
        failClosed_resolveBackendProtocol, hunpoliced]
    · simp only [applyGRPCBackendTransport, resolveBackendTLS, htls, hnone,
        Option.isSome_none, Bool.false_eq_true, if_false, hunpoliced]
      split <;> rfl
  | some tls =>
    have hattached := attachGatewayClientCert_isSome clientCert (some tls)
    have hpoliced : ¬ Unpoliced resolvers ns name port := by
      rintro ⟨hnone, -⟩
      rw [htls] at hnone
      cases hnone
    constructor
    · simp [verdict, applyFilters, applyBackendTransport, resolveBackendTLS, htls, hattached,
        failClosed_resolveBackendProtocol, hpoliced]
    · simp [verdict, applyFilters, applyGRPCBackendTransport, resolveBackendTLS, htls,
        hattached, hpoliced]

variable (s : ProxySyncer) (ns : String) (clientCert : Option ClientCertConfig)

theorem validateCrossNamespace_eq {ref : BackendObjectReference}
    (hgrants : (s.resolvers .HTTPRoute).validator ns ref = (s.resolvers .GRPCRoute).validator ns ref)
    (targetNS : String) :
    validateCrossNamespace (s.resolvers .HTTPRoute) targetNS ns ref =
      validateCrossNamespace (s.resolvers .GRPCRoute) targetNS ns ref := by
  rw [validateCrossNamespace, hgrants]
  rfl

theorem resolveCommonBackendRef_eq {ref : RouteSpec.BackendRef}
    (hgrants : (s.resolvers .HTTPRoute).validator ns ref.toBackendObjectReference =
      (s.resolvers .GRPCRoute).validator ns ref.toBackendObjectReference) :
    resolveCommonBackendRef (s.resolvers .HTTPRoute) ref ns =
      resolveCommonBackendRef (s.resolvers .GRPCRoute) ref ns := by
  simp only [resolveCommonBackendRef, validateCommonBackendRef, validateCrossNamespace_eq s ns hgrants]
  rfl

/-- The two kinds keep a backend alike, with the same weight, TLS settings and status, exactly
when it does not fail for two reasons at once. -/
theorem conversions_agree_iff {http : HTTPBackendRef} {grpc : GRPCBackendRef}
    (htarget : http.toBackendRef = grpc.toBackendRef)
    (hfilters : List.Forall₂ SameFilter http.filters grpc.filters)
    (hgrants : (s.resolvers .HTTPRoute).validator ns grpc.toBackendObjectReference =
      (s.resolvers .GRPCRoute).validator ns grpc.toBackendObjectReference) :
    (convertBackendRef s.lib (s.resolvers .HTTPRoute) ns clientCert http).map verdict =
        (convertGRPCBackendRef s.lib (s.resolvers .GRPCRoute) ns clientCert grpc).map verdict ↔
      ¬ FailsTwice (s.resolvers .GRPCRoute) ns grpc := by
  have hcollect := collect_sameFilters (s.resolvers .HTTPRoute) ns clientCert hfilters
  rw [convertBackendRef, convertGRPCBackendRef, FailsTwice, htarget,
    resolveCommonBackendRef_eq s ns hgrants]
  cases hcommon : resolveCommonBackendRef (s.resolvers .GRPCRoute) grpc.toBackendRef ns with
  | dropped => simp
  | final backend => simp
  | external weight svcNamespace serviceName =>
    have hcross := validateCrossNamespace_eq s ns hgrants svcNamespace
    have hsame : (convertExternalBackendRef s.lib (s.resolvers .HTTPRoute) ns clientCert weight
        svcNamespace serviceName http).map verdict =
        (convertGRPCExternalBackendRef s.lib (s.resolvers .GRPCRoute) ns weight svcNamespace
          serviceName grpc).map verdict := by
      rw [convertExternalBackendRef, convertGRPCExternalBackendRef, htarget, hcross]
      split
      · rfl
      · rw [applyBackendFilters, applyGRPCBackendFilters, hcollect]
        rfl
    simp [hsame]
  | resolved backend svcNamespace serviceName port =>
    dsimp only
    obtain ⟨hhttp, -⟩ := verdict_transports (s.resolvers .HTTPRoute) clientCert backend
      svcNamespace serviceName port (collectFilters (grpc.filters.map convertGRPCFilter))
    obtain ⟨-, hgrpc⟩ := verdict_transports (s.resolvers .GRPCRoute) clientCert backend
      svcNamespace serviceName port (collectFilters (grpc.filters.map convertGRPCFilter))
    have hpolicy : Unpoliced (s.resolvers .HTTPRoute) svcNamespace serviceName port ↔
        Unpoliced (s.resolvers .GRPCRoute) svcNamespace serviceName port := Iff.rfl
    have htls : (s.resolvers .HTTPRoute).tlsResolver = (s.resolvers .GRPCRoute).tlsResolver := rfl
    have hne : statusInternalServerError ≠ statusBadGateway := by decide
    rw [applyBackendFilters, applyGRPCBackendFilters, hcollect, Option.map_some, Option.map_some,
      Option.some.injEq, hhttp, hgrpc, htls, Prod.mk.injEq, Prod.mk.injEq, and_iff_right rfl,
      and_iff_right rfl]
    simp only [hpolicy]
    split_ifs with hfails hunpoliced hunpoliced <;> simp_all

end RouteKinds

section Orders

/-- A plain port, one that asks for TLS and one that speaks h2c. -/
def ordersService : Service :=
  ⟨.of "shop" "orders", .other "ClusterIP", "10.0.0.1",
    [⟨"http", 80, .number 8080, none⟩, ⟨"tls", 8443, .number 8443, some "https"⟩,
      ⟨"grpc", 9000, .number 9000, some "kubernetes.io/h2c"⟩]⟩

def ordersSyncer : ProxySyncer where
  objects :=
    { gateways := []
      listenerSets := []
      gatewayClasses := []
      namespaces := []
      labelSelectorAsSelector := fun _ => none
      services := [ordersService]
      parsesCABundle := fun _ => true
      x509KeyPair := fun _ _ => true }
  lib := .literal
  clusterDomain := "cluster.local"
  controllerName := "example.com/tunnel"

def ordersRef (port : ℤ) : BackendObjectReference := { name := "orders", port := some port }

def mirrorTo (port : ℤ) : HTTPRequestMirrorFilter := { backendRef := ordersRef port }

def emittedMirror (port : ℤ) : Option MirrorConfig :=
  (convertMirrorFilter (ordersSyncer.resolvers .HTTPRoute) (some (mirrorTo port)) "shop" none).bind
    RouteFilter.requestMirror

def mainBackend (port : ℤ) : Option ProxyConfig.BackendRef :=
  convertBackendRef ordersSyncer.lib (ordersSyncer.resolvers .HTTPRoute) "shop" none
    (asBackend (ordersRef port) none)

theorem plain_port_honoured : ∃ cfg main, emittedMirror 80 = some cfg ∧ mainBackend 80 = some main ∧
    Honours (ordersSyncer.resolvers .HTTPRoute) "shop" "orders" 80 main cfg := by
  have hemitted : ∃ filter, convertMirrorFilter (ordersSyncer.resolvers .HTTPRoute)
      (some (mirrorTo 80)) "shop" none = some filter := by
    rw [← Option.isSome_iff_exists]
    decide +kernel
  obtain ⟨filter, hfilter⟩ := hemitted
  obtain ⟨cfg, main, hcfg, hmain, hiff⟩ := mirror_honours_iff (ordersSyncer.resolvers .HTTPRoute)
    none ordersSyncer.lib (mirrorTo 80) "shop" hfilter none (by decide)
  refine ⟨cfg, main, ?_, hmain, hiff.mpr (by decide +kernel)⟩
  rw [emittedMirror, hfilter]
  exact hcfg

/-- A port that asks for TLS is mirrored to in plaintext, and an h2c port without h2c. -/
theorem app_protocol_not_honoured :
    (mainBackend 8443).map (·.unavailableStatus) = some statusBadGateway ∧
      (emittedMirror 8443).map (fun cfg => (cfg.backendURL, cfg.tls)) =
        some ("http://orders.shop.svc.cluster.local:8443", none) ∧
      (mainBackend 9000).map (·.protocol) = some .h2c ∧
      (emittedMirror 9000).map (·.protocol) = some .http := by
  decide +kernel

def httpRef (port : ℤ) (filters : List HTTPRouteFilter) : HTTPBackendRef where
  toBackendRef := ⟨ordersRef port, none⟩
  filters := filters

def grpcRef (port : ℤ) (filters : List GRPCRouteFilter) : GRPCBackendRef where
  toBackendRef := ⟨ordersRef port, none⟩
  filters := filters

def httpVerdict (ref : HTTPBackendRef) : Option (ℤ × Option BackendTLSConfig × ℤ) :=
  (convertBackendRef ordersSyncer.lib (ordersSyncer.resolvers .HTTPRoute) "shop" none ref).map verdict

def grpcVerdict (ref : GRPCBackendRef) : Option (ℤ × Option BackendTLSConfig × ℤ) :=
  (convertGRPCBackendRef ordersSyncer.lib (ordersSyncer.resolvers .GRPCRoute) "shop" none ref).map
    verdict

theorem tls_port_fails_alike : httpVerdict (httpRef 8443 []) = grpcVerdict (grpcRef 8443 []) ∧
    grpcVerdict (grpcRef 8443 []) = some (1, none, statusBadGateway) :=
  ⟨(conversions_agree_iff ordersSyncer "shop" none rfl .nil rfl).mpr (by decide +kernel),
    by decide +kernel⟩

/-- With an unsupported filter beside it the one kind answers 500 and the other 502. -/
theorem filter_and_tls_port_differ :
    SameFilter { type := .extensionRef } { type := .extensionRef } ∧
      httpVerdict (httpRef 8443 [{ type := .extensionRef }]) =
        some (1, none, statusInternalServerError) ∧
      grpcVerdict (grpcRef 8443 [{ type := .extensionRef }]) = some (1, none, statusBadGateway) :=
  ⟨.unsupported (.inl rfl) (.inr (.inl rfl)), by decide +kernel, by decide +kernel⟩

end Orders

end TunnelGateway.TransportAgreement
