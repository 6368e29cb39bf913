import TunnelGateway.ClusterResolvers
import TunnelGateway.RouteConversion
import TunnelGateway.DedupBy
import Mathlib.Data.Int.GCD

/-!
The passes that rewrite converted backends with what the cluster says about
them: marking a backend unavailable, expanding a headless Service into its
endpoints, marking Services without endpoints and resolving ExternalBackends.
All but the last find their backends by the host of the URL, in every rule.
-/
namespace TunnelGateway.BackendPasses

open GoText GatewayApi RouteSpec ProxyConfig ClusterObjects ServiceTarget RouteConversion DedupBy

/-- Rewrite every rule and keep its provenance. -/
def mapRules (f : RouteRule → RouteRule) (rules : List ConvertedRule) : List ConvertedRule :=
  rules.map fun c => { c with rule := f c.rule }

section Marking

variable (lib : GoLib)

def hostOf (url : String) : Option String := (lib.parseURL url).toOption.map URL.host

/-- The empty host stands for a URL that does not parse. -/
def serviceBackendHost (clusterDomain ns name : String) (port : ℤ) : String :=
  (hostOf lib (buildServiceURL name ns port clusterDomain)).getD ""

/-- Not marked so far, and dialed at this host. -/
def unmarkedAt (target : String) (backend : ProxyConfig.BackendRef) : Bool :=
  backend.unavailableStatus = 0 && hostOf lib backend.url = some target

def markBackend (target : String) (status : ℤ) (backend : ProxyConfig.BackendRef) :
    ProxyConfig.BackendRef :=
  if unmarkedAt lib target backend then { backend with unavailableStatus := status }
  else backend

def markUnavailableBackends (target : String) (status : ℤ) (rules : List ConvertedRule) :
    List ConvertedRule :=
  if target = "" then rules
  else mapRules (fun rule =>
    { rule with backends := rule.backends.map (markBackend lib target status) }) rules

def unmarkedBackendHosts (rules : List ConvertedRule) : List String :=
  rules.flatMap fun c =>
    (c.rule.backends.filter (·.unavailableStatus = 0)).filterMap (hostOf lib ·.url)

end Marking

section Headless

variable (lib : GoLib)

structure ResolvedEndpoint where
  host : String
  port : ℤ
  deriving DecidableEq

/-- `net.JoinHostPort`. -/
def joinHostPort (host : String) (port : ℤ) : String :=
  if contains host ":" then "[" ++ host ++ "]:" ++ toString port else host ++ ":" ++ toString port

def backendScheme (rawURL : String) : String :=
  match lib.parseURL rawURL with
  | .ok parsed => if parsed.scheme ≠ "" then parsed.scheme else schemeHTTP
  | .error _ => schemeHTTP

/-- Only the dial URL changes. -/
def endpointBackends (endpoints : List ResolvedEndpoint) (matched : ProxyConfig.BackendRef) :
    List ProxyConfig.BackendRef :=
  endpoints.map fun ep =>
    { matched with
      url := backendScheme lib matched.url ++ "://" ++ joinHostPort ep.host ep.port }

def maxInt32 : ℤ := 2147483647

def scaleWeight (weight scale : ℤ) : ℤ :=
  if weight * scale > maxInt32 then maxInt32 else weight * scale

def weightsGCD (backends : List ProxyConfig.BackendRef) : ℕ :=
  backends.foldl (fun divisor backend => Int.gcd divisor backend.weight) 0

def reduceWeightsByGCD (backends : List ProxyConfig.BackendRef) : List ProxyConfig.BackendRef :=
  let divisor := weightsGCD backends
  if divisor ≤ 1 then backends
  else backends.map fun backend => { backend with weight := backend.weight.tdiv divisor }

def backendMatchesHeadless (target : String) (backend : ProxyConfig.BackendRef) : Bool :=
  unmarkedAt lib target backend && 0 < backend.weight

/-- The siblings of an expanded backend keep their share. -/
def expandRuleBackends (target : String) (endpoints : List ResolvedEndpoint) (rule : RouteRule) :
    RouteRule :=
  if !rule.backends.any (backendMatchesHeadless lib target) then rule
  else
    { rule with
      backends := reduceWeightsByGCD (rule.backends.flatMap fun backend =>
        if backendMatchesHeadless lib target backend then endpointBackends lib endpoints backend
        else [{ backend with weight := scaleWeight backend.weight endpoints.length }]) }

def expandHeadlessBackend (target : String) (endpoints : List ResolvedEndpoint)
    (rules : List ConvertedRule) : List ConvertedRule :=
  if endpoints.isEmpty || target = "" then rules
  else mapRules (expandRuleBackends lib target endpoints) rules

end Headless

section Visits

variable (lib : GoLib) (clusterDomain : String)

/-- A Service port that a backend reference names. -/
structure ServiceKey where
  ns : String
  name : String
  port : ℤ
  deriving DecidableEq

def ServiceKey.host (svc : ServiceKey) : String :=
  serviceBackendHost lib clusterDomain svc.ns svc.name svc.port

/-- The Service references of the routes, in order. -/
def serviceRefs {Rule : Type} (refsOf : Rule → List BackendObjectReference)
    (routes : List (Route Rule)) : List ServiceKey :=
  routes.flatMap fun route => route.rules.flatMap fun rule =>
    ((refsOf rule).filter isServiceBackendRef).map fun ref =>
      ⟨refNamespace ref route.id.ns, ref.name, refPort ref⟩

def httpRuleRefs (rule : HTTPRouteRule) : List BackendObjectReference :=
  rule.backendRefs.map fun ref => ref.toBackendObjectReference

def grpcRuleRefs (rule : GRPCRouteRule) : List BackendObjectReference :=
  rule.backendRefs.map fun ref => ref.toBackendObjectReference

/-- The Services to act on: each host once, and only where the configuration has
an unmarked backend for it. -/
def authorizedServices (refs : List ServiceKey) (rules : List ConvertedRule) : List ServiceKey :=
  dedupBy (ServiceKey.host lib clusterDomain) []
    (refs.filter fun svc => svc.host lib clusterDomain ∈ unmarkedBackendHosts lib rules)

def visitAuthorizedServiceBackends (routes : List HTTPRoute) (grpcRoutes : List GRPCRoute)
    (action : ServiceKey → List ConvertedRule → List ConvertedRule) (rules : List ConvertedRule) :
    List ConvertedRule :=
  let refs := serviceRefs httpRuleRefs routes ++ serviceRefs grpcRuleRefs grpcRoutes
  (authorizedServices lib clusterDomain refs rules).foldl (fun acc svc => action svc acc) rules

end Visits

section Endpoints

variable (objects : Objects)

/-- Port name and numeric target port, zero when there is none. -/
def serviceTargetPort (svc : Service) (port : ℤ) : String × ℤ :=
  match svc.ports.find? (·.port = port) with
  | none => ("", 0)
  | some svcPort =>
      match svcPort.targetPort with
      | .number value => (svcPort.name, if value > 0 then value else 0)
      | .named _ => (svcPort.name, 0)

def endpointSlicePort (slice : EndpointSlice) (portName : String) : Option ℤ :=
  match slice.ports.find? fun p =>
      p.port.isSome && (p.name = some portName || (p.name.isNone && portName = "")) with
  | some p => p.port
  | none =>
      match slice.ports with
      | [p] => p.port
      | _ => none

def isReady (endpoint : Endpoint) : Bool := endpoint.ready = some true

/-- The dialable endpoints of a slice and whether any endpoint is ready. -/
def sliceEndpoints (slice : EndpointSlice) (portName : String) (fallback : ℤ) :
    List ResolvedEndpoint × Bool :=
  let ready := slice.endpoints.filter isReady
  let endpointPort := match endpointSlicePort slice portName with
    | some port => some port
    | none => if fallback > 0 then some fallback else none
  (match endpointPort with
    | none => []
    | some port => ready.flatMap fun endpoint => endpoint.addresses.map (⟨·, port⟩),
    !ready.isEmpty)

def endpointPrecedes (left right : ResolvedEndpoint) : Prop :=
  left.host < right.host ∨ (left.host = right.host ∧ left.port ≤ right.port)

instance (left right : ResolvedEndpoint) : Decidable (endpointPrecedes left right) := by
  unfold endpointPrecedes
  infer_instance

def resolveHeadlessEndpoints (svc : Service) (key : ServiceKey) : List ResolvedEndpoint × Bool :=
  let (portName, fallbackPort) := serviceTargetPort svc key.port
  let slices := (objects.endpointSlicesOf key.ns key.name).map
    (sliceEndpoints · portName fallbackPort)
  ((slices.flatMap Prod.fst).insertionSort endpointPrecedes, slices.any Prod.snd)

def isExternalName (svc : Service) : Bool :=
  match svc.type with
  | .externalName _ => true
  | .other _ => false

def clusterIPNone : String := "None"

variable (lib : GoLib) (clusterDomain : String)

def expandBackendIfHeadless (key : ServiceKey) (rules : List ConvertedRule) :
    List ConvertedRule :=
  match objects.getService key.ns key.name with
  | none => rules
  | some svc =>
      if isExternalName svc || svc.clusterIP ≠ clusterIPNone then rules
      else
        let (endpoints, hadReady) := resolveHeadlessEndpoints objects svc key
        if !endpoints.isEmpty then
          expandHeadlessBackend lib (key.host lib clusterDomain) endpoints rules
        else if hadReady then
          markUnavailableBackends lib (key.host lib clusterDomain) statusServiceUnavailable rules
        else rules

def expandHeadlessBackends (routes : List HTTPRoute) (grpcRoutes : List GRPCRoute)
    (rules : List ConvertedRule) : List ConvertedRule :=
  visitAuthorizedServiceBackends lib clusterDomain routes grpcRoutes
    (expandBackendIfHeadless objects lib clusterDomain) rules

def serviceHasReadyEndpoint (ns serviceName : String) : Bool :=
  (objects.endpointSlicesOf ns serviceName).any fun slice => slice.endpoints.any isReady

def markBackendIfZeroEndpoints (key : ServiceKey) (rules : List ConvertedRule) :
    List ConvertedRule :=
  match objects.getService key.ns key.name with
  | none => rules
  | some svc =>
      if isExternalName svc then rules
      else if serviceHasReadyEndpoint objects key.ns key.name then rules
      else markUnavailableBackends lib (key.host lib clusterDomain) statusServiceUnavailable rules

def markZeroEndpointBackends (routes : List HTTPRoute) (grpcRoutes : List GRPCRoute)
    (rules : List ConvertedRule) : List ConvertedRule :=
  visitAuthorizedServiceBackends lib clusterDomain routes grpcRoutes
    (markBackendIfZeroEndpoints objects lib clusterDomain) rules

end Endpoints

section External

variable (lib : GoLib)

def externalURL (spec : ExternalBackendSpec) : String :=
  spec.scheme ++ "://" ++ spec.host ++ ":" ++ toString spec.port ++ spec.path

def validateExternal (spec : ExternalBackendSpec) : Except String Unit :=
  if spec.scheme ≠ schemeHTTP ∧ spec.scheme ≠ schemeHTTPS then
    .error ("got " ++ spec.scheme.quote ++ ": scheme must be http or https")
  else if spec.host = "" then .error "host must not be empty"
  else if spec.port < 1 ∨ 65535 < spec.port then
    .error ("got " ++ toString spec.port ++ ": port out of range [1,65535]")
  else if spec.path ≠ "" ∧ !hasPrefix spec.path "/" then
    .error ("got " ++ spec.path.quote ++ ": path must begin with \"/\"")
  else
    match lib.parseURL (externalURL spec) with
    | .ok _ => .ok ()
    | .error err =>
        .error (err ++ ": spec does not form a valid URL (check host — embed neither a port " ++
          "nor a scheme; bracket IPv6 literals)")

/-- First marking wins. -/
def failBackend (backend : ProxyConfig.BackendRef) : ProxyConfig.BackendRef :=
  if backend.unavailableStatus = 0 then
    { backend with unavailableStatus := statusInternalServerError }
  else backend

def resolveExternalBackend (objects : Objects) (backend : ProxyConfig.BackendRef) :
    ProxyConfig.BackendRef :=
  match parseExternalBackendSentinel lib backend.url with
  | none => backend
  | some (ns, name) =>
      match objects.getExternalBackend ns name with
      | none => failBackend backend
      | some external =>
          match validateExternal lib external.spec with
          | .error _ => failBackend backend
          | .ok _ =>
              { backend with
                url := externalURL external.spec
                protocol :=
                  if backend.protocol = .h2c ∧ external.spec.scheme = schemeHTTPS then .http
                  else backend.protocol }

def resolveExternalBackends (objects : Objects) (rules : List ConvertedRule) :
    List ConvertedRule :=
  mapRules (fun rule =>
    { rule with backends := rule.backends.map (resolveExternalBackend lib objects) }) rules

end External

end TunnelGateway.BackendPasses
