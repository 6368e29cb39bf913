import TunnelGateway.RouteOrigin

/-!
URLs of converted backends. A Service or ServiceImport gets a web URL, which no
rewriting of the scheme turns into anything else; an ExternalBackend gets its
placeholder.
-/
namespace TunnelGateway.ServiceURL

open GoText GatewayApi RouteSpec ProxyConfig ClusterObjects ServiceTarget RouteConversion
open BackendPasses BuildConfig BackendFate RouteOrigin

section WebURLs

/-- A URL the proxy dials as it is. -/
def IsWeb (url : String) : Prop :=
  ∃ scheme ∈ [schemeHTTP, schemeHTTPS], ∃ rest, url = scheme ++ "://" ++ rest

theorem isWeb_http (rest : String) : IsWeb (schemeHTTP ++ "://" ++ rest) :=
  ⟨schemeHTTP, by simp, rest, rfl⟩

theorem isWeb_https (rest : String) : IsWeb (schemeHTTPS ++ "://" ++ rest) :=
  ⟨schemeHTTPS, by simp, rest, rfl⟩

theorem isWeb_buildServiceURL (name ns : String) (port : ℤ) (clusterDomain : String) :
    IsWeb (buildServiceURL name ns port clusterDomain) := by
  unfold buildServiceURL serviceScheme
  split
  · exact isWeb_https _
  · exact isWeb_http _

variable {url : String}

/-- Turning the first `https://` into `http://` keeps the URL a web URL, wherever
that occurrence is. -/
theorem isWeb_replaceFirst (h : IsWeb url) :
    IsWeb (replaceFirst url (schemeHTTPS ++ "://") (schemeHTTP ++ "://")) := by
  have hold : (schemeHTTPS ++ "://").toList = ['h', 't', 't', 'p', 's', ':', '/', '/'] := by decide
  have hnew : (schemeHTTP ++ "://").toList = ['h', 't', 't', 'p', ':', '/', '/'] := by decide
  obtain ⟨scheme, hscheme, rest, rfl⟩ := h
  have happend : ∀ front : String, (front ++ rest).toList = front.toList ++ rest.toList :=
    fun _ => String.toList_append
  have hresult : ∃ rest', replaceFirstIn (schemeHTTPS ++ "://").toList (schemeHTTP ++ "://").toList
      (scheme ++ "://" ++ rest).toList = (schemeHTTP ++ "://").toList ++ rest' := by
    simp only [List.mem_cons, List.not_mem_nil, or_false] at hscheme
    rcases hscheme with rfl | rfl <;> exact ⟨_, by simp; rfl⟩
  obtain ⟨rest', hrest⟩ := hresult
  have heq : replaceFirst (scheme ++ "://" ++ rest) (schemeHTTPS ++ "://") (schemeHTTP ++ "://") =
      schemeHTTP ++ "://" ++ String.ofList rest' := by
    rw [replaceFirst, hrest, String.ofList_append, String.ofList_toList]
  rw [heq]
  exact isWeb_http _

variable {lib : GoLib}

theorem scheme_of_isWeb (h : IsWeb url) {u : URL} (hu : lib.parseURL url = .ok u) :
    u.scheme = schemeHTTP ∨ u.scheme = schemeHTTPS := by
  obtain ⟨scheme, hscheme, rest, rfl⟩ := h
  simp only [List.mem_cons, List.not_mem_nil, or_false] at hscheme
  rcases hscheme with rfl | rfl
  · exact .inl (lib.parseURL_scheme schemeHTTP (by simp [schemeHTTP]) rest u hu)
  · exact .inr (lib.parseURL_scheme schemeHTTPS (by simp [schemeHTTPS]) rest u hu)

/-- Web URLs are no placeholders. -/
theorem resolveExternalBackend_of_isWeb {objects : Objects} {b : Backend} (h : IsWeb b.url) :
    resolveExternalBackend lib objects b = b := by
  have hnone : parseExternalBackendSentinel lib b.url = none := by
    unfold parseExternalBackendSentinel
    split
    · rfl
    · rename_i u hu
      rcases scheme_of_isWeb h hu with hscheme | hscheme <;> rw [hscheme, if_neg (by decide)]
  rw [resolveExternalBackend, hnone]

theorem isWeb_endpointBackends {endpoints : List ResolvedEndpoint} {b d : Backend}
    (h : IsWeb b.url) (hd : d ∈ endpointBackends lib endpoints b) : IsWeb d.url := by
  obtain ⟨ep, -, rfl⟩ := List.mem_map.mp hd
  have hscheme : backendScheme lib b.url = schemeHTTP ∨ backendScheme lib b.url = schemeHTTPS := by
    unfold backendScheme
    split
    · rename_i u hu
      split
      · exact scheme_of_isWeb h hu
      · exact .inl rfl
    · exact .inl rfl
  rcases hscheme with hscheme | hscheme
  · simp only [hscheme]
    exact isWeb_http _
  · simp only [hscheme]
    exact isWeb_https _

end WebURLs

section ConvertedURLs

variable {lib : GoLib} {resolvers : Resolvers} {ns : String}

/-- The URL of a Service, or the placeholder of an ExternalBackend. -/
def IsServiceOrExternal (lib : GoLib) (b : Backend) : Prop :=
  IsWeb b.url ∨ ∃ ns name, b.url = externalBackendSentinelURL lib ns name

variable {b : Backend} {svcNamespace serviceName url : String} {port : ℤ}
  {clientCert : Option ClientCertConfig}

theorem isWeb_markInvalidBackend {weight : ℤ} {name : String} {clusterDomain : String}
    (h : markInvalidBackend weight name svcNamespace port clusterDomain = some b) :
    IsWeb b.url := by
  unfold markInvalidBackend at h
  split at h
  · cases h
  · cases h
    exact isWeb_buildServiceURL _ _ _ _

theorem isWeb_resolveBackendTLS (h : IsWeb url) :
    IsWeb (resolveBackendTLS resolvers svcNamespace serviceName port url).2 := by
  unfold resolveBackendTLS
  split
  · exact h
  · unfold forceHTTPSScheme
    split
    · exact isWeb_https _
    · exact h

theorem isWeb_resolveBackendProtocol {tlsAttached : Bool} (h : IsWeb url) :
    IsWeb (resolveBackendProtocol resolvers svcNamespace serviceName port url tlsAttached).2.1 := by
  simp only [resolveBackendProtocol, resolveH2C]
  split
  · split
    · exact h
    · exact isWeb_replaceFirst h
  · split_ifs <;> exact h

theorem isWeb_applyGRPCBackendTransport (h : IsWeb b.url) :
    IsWeb (applyGRPCBackendTransport resolvers clientCert b svcNamespace serviceName port).url := by
  have hurl : IsWeb (resolveBackendTLS resolvers svcNamespace serviceName port b.url).2 :=
    isWeb_resolveBackendTLS h
  simp only [applyGRPCBackendTransport]
  split
  · exact hurl
  · split
    · exact hurl
    · exact isWeb_replaceFirst hurl

theorem url_convertBackendRef {ref : HTTPBackendRef}
    (h : convertBackendRef lib resolvers ns clientCert ref = some b) :
    IsServiceOrExternal lib b := by
  cases origin_of_convertBackendRef h with
  | invalid hmark => exact .inl (isWeb_markInvalidBackend hmark)
  | external => exact .inr ⟨_, _, rfl⟩
  | service =>
    exact .inl (isWeb_resolveBackendProtocol
      (isWeb_resolveBackendTLS (isWeb_buildServiceURL _ _ _ _)))

theorem url_convertGRPCBackendRef {ref : GRPCBackendRef}
    (h : convertGRPCBackendRef lib resolvers ns clientCert ref = some b) :
    IsServiceOrExternal lib b := by
  cases origin_of_convertGRPCBackendRef h with
  | invalid hmark => exact .inl (isWeb_markInvalidBackend hmark)
  | external => exact .inr ⟨_, _, rfl⟩
  | service => exact .inl (isWeb_applyGRPCBackendTransport (isWeb_buildServiceURL _ _ _ _))

theorem url_convertAnyRoute {s : ProxySyncer}
    {certResolver : String → String → Option ClientCertConfig} {route : AnyRoute}
    {c : ConvertedRule} (hc : c ∈ convertAnyRoute s certResolver route) (hb : b ∈ c.rule.backends) :
    IsServiceOrExternal s.lib b := by
  cases route with
  | http route =>
    obtain ⟨i, rule, -, rfl⟩ := (mem_convertRoute c).mp hc
    obtain ⟨ref, -, hconv⟩ := List.mem_filterMap.mp hb
    exact url_convertBackendRef hconv
  | grpc route =>
    obtain ⟨i, rule, -, rfl⟩ := (mem_convertRoute c).mp hc
    obtain ⟨ref, -, hconv⟩ := List.mem_filterMap.mp hb
    exact url_convertGRPCBackendRef hconv

end ConvertedURLs

end TunnelGateway.ServiceURL
