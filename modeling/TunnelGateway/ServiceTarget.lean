import TunnelGateway.RouteSpec
import TunnelGateway.ProxyConfig

/-!
What a backend reference resolves to: the supported kinds, the cluster-local URL
of a Service, the placeholder URL of an ExternalBackend and the TLS settings of
the hop. The lookups the converter is given as callbacks are the fields of
`Resolvers`.
-/
namespace TunnelGateway.ServiceTarget

open GoText RouteSpec ProxyConfig

def defaultServicePort : ℤ := 80
def httpsPort : ℤ := 443
def minPort : ℤ := 1
def maxPort : ℤ := 65535

def schemeHTTP : String := "http"
def schemeHTTPS : String := "https"
def schemeHTTPSUpper : String := "HTTPS"

def appProtocolH2C : String := "kubernetes.io/h2c"
def appProtocolWS : String := "kubernetes.io/ws"
def appProtocolWSS : String := "kubernetes.io/wss"

def serviceImportGroup : String := "multicluster.x-k8s.io"
def serviceImportKind : String := "ServiceImport"
def clustersetDomain : String := "clusterset.local"

def externalBackendGroup : String := "cf.k8s.lex.la"
def externalBackendKind : String := "ExternalBackend"
def externalBackendScheme : String := "externalbackend"

def statusInternalServerError : ℤ := 500
def statusBadGateway : ℤ := 502
def statusServiceUnavailable : ℤ := 503

/-- A client certificate and its private key. -/
structure ClientCertConfig where
  certPEM : List UInt8
  keyPEM : List UInt8
  deriving DecidableEq

/-- The callbacks of a conversion: cross-namespace permission from a route's
namespace, the appProtocol of a Service port and the TLS policy on it. -/
structure Resolvers where
  clusterDomain : String
  validator : String → BackendObjectReference → Bool
  protocolResolver : String → String → ℤ → String
  tlsResolver : String → String → ℤ → Option BackendTLSConfig

def isServiceBackendRef (ref : BackendObjectReference) : Bool :=
  ref.group.all (fun group => group = "" || group = "core") && ref.kind.all (· = "Service")

def isServiceImportBackendRef (ref : BackendObjectReference) : Bool :=
  ref.group = some serviceImportGroup && ref.kind = some serviceImportKind

def isExternalBackendRef (ref : BackendObjectReference) : Bool :=
  ref.group = some externalBackendGroup && ref.kind = some externalBackendKind

def isSupportedBackendRef (ref : BackendObjectReference) : Bool :=
  isServiceBackendRef ref || isServiceImportBackendRef ref || isExternalBackendRef ref

def isMirrorableBackendRef (ref : BackendObjectReference) : Bool :=
  isServiceBackendRef ref || isServiceImportBackendRef ref

def backendDomain (ref : BackendObjectReference) (clusterDomain : String) : String :=
  if isServiceImportBackendRef ref then clustersetDomain else clusterDomain

def validatePort (port : ℤ) : Bool := minPort ≤ port && port ≤ maxPort

def validateCrossNamespace (resolvers : Resolvers) (targetNS sourceNS : String)
    (ref : BackendObjectReference) : Bool :=
  targetNS = sourceNS || resolvers.validator sourceNS ref

/-- The authority of a Service URL. -/
def serviceAuthority (name ns : String) (port : ℤ) (clusterDomain : String) : String :=
  name ++ "." ++ ns ++ ".svc." ++ trimSuffix clusterDomain "." ++ ":" ++ toString port

def serviceScheme (port : ℤ) : String := if port = httpsPort then schemeHTTPS else schemeHTTP

def buildServiceURL (name ns : String) (port : ℤ) (clusterDomain : String) : String :=
  serviceScheme port ++ "://" ++ serviceAuthority name ns port clusterDomain

def externalBackendSentinelURL (lib : GoLib) (ns name : String) : String :=
  externalBackendScheme ++ "://" ++ (name ++ "?ns=" ++ lib.queryEscape ns)

/-- Namespace and name of a sentinel URL. -/
def parseExternalBackendSentinel (lib : GoLib) (rawURL : String) : Option (String × String) :=
  match lib.parseURL rawURL with
  | .error _ => none
  | .ok parsed =>
      if parsed.scheme = externalBackendScheme then some (parsed.queryGet "ns", parsed.host)
      else none

def forceHTTPSScheme (rawURL : String) : String :=
  if hasPrefix rawURL (schemeHTTP ++ "://") then schemeHTTPS ++ "://" ++ sliceFrom rawURL 7
  else rawURL

/-- The certificate is only presented over TLS. -/
def attachGatewayClientCert (tlsCfg : Option BackendTLSConfig)
    (clientCert : Option ClientCertConfig) : Option BackendTLSConfig :=
  match tlsCfg, clientCert with
  | some tls, some cert =>
      some { tls with clientCertPEM := cert.certPEM, clientKeyPEM := cert.keyPEM }
  | _, _ => tlsCfg

def resolveBackendTLS (resolvers : Resolvers) (ns serviceName : String) (port : ℤ)
    (rawURL : String) : Option BackendTLSConfig × String :=
  match resolvers.tlsResolver ns serviceName port with
  | none => (none, rawURL)
  | some tls => (some tls, forceHTTPSScheme rawURL)

/-- An invalid reference that carries traffic stays in the pool as a 500. -/
def markInvalidBackend (weight : ℤ) (name svcNamespace : String) (port : ℤ)
    (clusterDomain : String) : Option ProxyConfig.BackendRef :=
  if weight ≤ 0 then none
  else
    let urlPort := if validatePort port then port else defaultServicePort
    some {
      weight := weight
      url := buildServiceURL name svcNamespace urlPort clusterDomain
      unavailableStatus := statusInternalServerError }

/-- What the two kinds of routes share in resolving a reference. -/
inductive CommonBackendRef where
  | dropped
  | final (backend : Option ProxyConfig.BackendRef)
  | external (weight : ℤ) (svcNamespace serviceName : String)
  | resolved (backend : ProxyConfig.BackendRef) (svcNamespace serviceName : String) (port : ℤ)
  deriving DecidableEq

def refWeight (ref : RouteSpec.BackendRef) : ℤ := ref.weight.getD 1

def refPort (ref : BackendObjectReference) : ℤ := ref.port.getD defaultServicePort

def refNamespace (ref : BackendObjectReference) (routeNamespace : String) : String :=
  ref.ns.getD routeNamespace

def validateCommonBackendRef (resolvers : Resolvers) (ref : RouteSpec.BackendRef)
    (routeNamespace : String) : CommonBackendRef :=
  let objRef := ref.toBackendObjectReference
  let weight := refWeight ref
  let port := refPort objRef
  let svcNamespace := refNamespace objRef routeNamespace
  let markInvalid := CommonBackendRef.final
    (markInvalidBackend weight ref.name svcNamespace port resolvers.clusterDomain)
  if !isSupportedBackendRef objRef then markInvalid
  else if isExternalBackendRef objRef then .external weight svcNamespace ref.name
  else if !validatePort port then markInvalid
  else if !validateCrossNamespace resolvers svcNamespace routeNamespace objRef then markInvalid
  else
    .resolved
      { weight := weight
        url := buildServiceURL ref.name svcNamespace port
          (backendDomain objRef resolvers.clusterDomain) }
      svcNamespace ref.name port

def resolveCommonBackendRef (resolvers : Resolvers) (ref : RouteSpec.BackendRef)
    (routeNamespace : String) : CommonBackendRef :=
  if refWeight ref < 0 then .dropped
  else validateCommonBackendRef resolvers ref routeNamespace

end TunnelGateway.ServiceTarget
