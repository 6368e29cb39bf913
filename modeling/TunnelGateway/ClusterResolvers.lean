import TunnelGateway.ClusterObjects
import TunnelGateway.ServiceTarget

/-!
The callbacks the controller gives to the converter: cross-namespace permission
by ReferenceGrant, the appProtocol of a Service port, the BackendTLSPolicy that
applies to it and the client certificate of a Gateway.
-/
namespace TunnelGateway.ClusterResolvers

open GoText GatewayApi RouteSpec ProxyConfig ClusterObjects ServiceTarget

section Grants

/-- The two ends of a reference. -/
structure Reference where
  group : String
  kind : String
  ns : String
  name : String

def matchesFrom (grantFrom : ReferenceGrantFrom) (fromRef : Reference) : Bool :=
  grantFrom.group = fromRef.group && grantFrom.kind = fromRef.kind && grantFrom.ns = fromRef.ns

/-- Only the grant's spelling of the core group is normalised. -/
def matchesTo (grantTo : ReferenceGrantTo) (toRef : Reference) : Bool :=
  let grantGroup := if grantTo.group = "core" then "" else grantTo.group
  grantGroup = toRef.group && grantTo.kind = toRef.kind && grantTo.name.all (· = toRef.name)

def grantAllowsReference (grant : ReferenceGrant) (fromRef toRef : Reference) : Bool :=
  grant.sources.any (matchesFrom · fromRef) && grant.targets.any (matchesTo · toRef)

def isReferenceAllowed (objects : Objects) (fromRef toRef : Reference) : Bool :=
  fromRef.ns = toRef.ns ||
    (objects.referenceGrants.filter (·.ns = toRef.ns)).any (grantAllowsReference · fromRef toRef)

def routeKindName : RouteKind → String
  | .HTTPRoute => "HTTPRoute"
  | .GRPCRoute => "GRPCRoute"

def newBackendRefValidator (objects : Objects) (fromKind : RouteKind) (fromNamespace : String)
    (ref : BackendObjectReference) : Bool :=
  isReferenceAllowed objects
    ⟨groupName, routeKindName fromKind, fromNamespace, ""⟩
    ⟨ref.group.getD "", ref.kind.getD "Service", ref.ns.getD fromNamespace, ref.name⟩

end Grants

section Services

/-- The first port with this number that sets an appProtocol. -/
def portAppProtocol (svc : Service) (port : ℤ) : String :=
  ((svc.ports.find? fun p => p.port = port && p.appProtocol.isSome).bind
    ServicePort.appProtocol).getD ""

def newBackendProtocolResolver (objects : Objects) (ns serviceName : String) (port : ℤ) :
    String :=
  match objects.getService ns serviceName with
  | none => ""
  | some svc => portAppProtocol svc port

def lookupServicePortName (objects : Objects) (ns serviceName : String) (port : ℤ) : String :=
  match objects.getService ns serviceName with
  | none => ""
  | some svc => ((svc.ports.find? (·.port = port)).map ServicePort.name).getD ""

end Services

section TLSPolicies

def policyTargetsServicePort (policy : BackendTLSPolicy) (serviceName portName : String) : Bool :=
  policy.targetRefs.any fun target =>
    target.name = serviceName && (target.kind = "" || target.kind = "Service") &&
      (target.sectionName.all (· = "") || target.sectionName = some portName)

def isPolicyOlder (candidate incumbent : BackendTLSPolicy) : Bool :=
  if candidate.creationTimestamp < incumbent.creationTimestamp then true
  else if incumbent.creationTimestamp < candidate.creationTimestamp then false
  else candidate.id.name < incumbent.id.name

def selectPolicyForServicePort (objects : Objects) (policies : List BackendTLSPolicy)
    (ns serviceName : String) (port : ℤ) : Option BackendTLSPolicy :=
  let portName := lookupServicePortName objects ns serviceName port
  policies.foldl (fun best policy =>
    if !policyTargetsServicePort policy serviceName portName then best
    else
      match best with
      | none => some policy
      | some incumbent => if isPolicyOlder policy incumbent then some policy else best) none

/-- One CA bundle of a policy, ended by a newline. -/
def resolveCACertificate (objects : Objects) (policy : BackendTLSPolicy)
    (ref : LocalObjectReference) : Option String :=
  if ref.group ≠ "" ∧ ref.group ≠ "core" then none
  else if ref.kind ≠ "ConfigMap" then none
  else
    match (objects.getConfigMap policy.id.ns ref.name).bind ConfigMap.caCert with
    | none => none
    | some caPEM =>
        if caPEM = "" ∨ !objects.parsesCABundle caPEM then none
        else some (if hasSuffix caPEM "\n" then caPEM else caPEM ++ "\n")

def resolveCABundlePEM (objects : Objects) (policy : BackendTLSPolicy) : Option String :=
  if policy.caCertificateRefs.isEmpty then none
  else (policy.caCertificateRefs.mapM (resolveCACertificate objects policy)).map String.join

/-- DNS names, URIs and whether an entry has an unknown type. -/
def splitSANsByType (policy : BackendTLSPolicy) : List String × List String × Bool :=
  (policy.subjectAltNames.filterMap fun
      | .hostname value => if value = "" then none else some value
      | _ => none,
    policy.subjectAltNames.filterMap fun
      | .uri value => if value = "" then none else some value
      | _ => none,
    policy.subjectAltNames.any fun
      | .other _ => true
      | _ => false)

/-- No CA: the handshake fails rather than falling back to cleartext. -/
def poisonedBackendTLS (policy : BackendTLSPolicy) : BackendTLSConfig :=
  { serverName := policy.hostname }

def policyTLS (objects : Objects) (policy : BackendTLSPolicy) : BackendTLSConfig :=
  match resolveCABundlePEM objects policy with
  | none => poisonedBackendTLS policy
  | some caBundle =>
      let (dnsSANs, uriSANs, hasUnknown) := splitSANsByType policy
      if hasUnknown then poisonedBackendTLS policy
      else
        { caBundlePEM := caBundle
          serverName := policy.hostname
          subjectAltNames := dnsSANs
          subjectAltNameURIs := uriSANs }

def newBackendTLSResolver (objects : Objects) (ns serviceName : String) (port : ℤ) :
    Option BackendTLSConfig :=
  let policies := objects.backendTLSPolicies.filter (·.id.ns = ns)
  (selectPolicyForServicePort objects policies ns serviceName port).map (policyTLS objects)

/-- A policy never brings a client certificate of its own. -/
theorem newBackendTLSResolver_no_clientCert {objects : Objects} {ns serviceName : String}
    {port : ℤ} {tls : BackendTLSConfig}
    (h : newBackendTLSResolver objects ns serviceName port = some tls) :
    tls.clientCertPEM = [] ∧ tls.clientKeyPEM = [] := by
  obtain ⟨policy, -, rfl⟩ := Option.map_eq_some_iff.mp h
  unfold policyTLS
  split
  · exact ⟨rfl, rfl⟩
  · simp only
    split <;> exact ⟨rfl, rfl⟩

end TLSPolicies

section ClientCertificates

inductive ClientCertError where
  | unsupportedRef
  | refNotPermitted
  | secretNotFound
  | wrongType
  | missingKey
  | invalidPEM
  deriving DecidableEq

def kindSecret : String := "Secret"
def secretTypeTLS : String := "kubernetes.io/tls"

def isCoreSecretRef (ref : SecretObjectReference) : Bool :=
  ref.group.getD "" = "" && ref.kind.getD kindSecret = kindSecret

def grantAllowsGatewayFromNamespace (grant : ReferenceGrant) (gatewayNamespace : String) : Bool :=
  grant.sources.any fun source =>
    source.group = groupName && source.kind = kindGateway && source.ns = gatewayNamespace

def checkSecretReferenceGrantForGateway (objects : Objects) (gateway : Gateway)
    (targetNamespace : String) (ref : SecretObjectReference) : Bool :=
  (objects.referenceGrants.filter (·.ns = targetNamespace)).any fun grant =>
    grantAllowsGatewayFromNamespace grant gateway.id.ns &&
      grant.targets.any fun target =>
        target.group = "" && target.kind = kindSecret &&
          target.name.all fun name => name = "" || name = ref.name

/-- `none` when the Gateway configures no client certificate. -/
def loadGatewayClientCertPEM (objects : Objects) (gateway : Gateway) :
    Except ClientCertError (Option ClientCertConfig) :=
  match gateway.clientCertificateRef with
  | none => .ok none
  | some ref =>
      let targetNS := ref.ns.getD gateway.id.ns
      if !isCoreSecretRef ref then .error .unsupportedRef
      else if targetNS ≠ gateway.id.ns &&
          !checkSecretReferenceGrantForGateway objects gateway targetNS ref then
        .error .refNotPermitted
      else
        match objects.getSecret targetNS ref.name with
        | none => .error .secretNotFound
        | some secret =>
            if secret.type ≠ secretTypeTLS then .error .wrongType
            else if secret.tlsCert.isEmpty || secret.tlsPrivateKey.isEmpty then .error .missingKey
            else if !objects.x509KeyPair secret.tlsCert secret.tlsPrivateKey then
              .error .invalidPEM
            else .ok (some ⟨secret.tlsCert, secret.tlsPrivateKey⟩)

/-- An empty controller name switches the check off. -/
def gatewayManagedByController (objects : Objects) (gateway : Gateway) (controllerName : String) :
    Bool :=
  if controllerName = "" then true
  else
    match objects.getGatewayClass gateway.gatewayClassName with
    | none => false
    | some gatewayClass => gatewayClass.controllerName = controllerName

def newGatewayClientCertResolver (objects : Objects) (controllerName : String)
    (ns name : String) : Option ClientCertConfig :=
  match objects.getGateway ns name with
  | none => none
  | some gateway =>
      if !gatewayManagedByController objects gateway controllerName then none
      else
        match loadGatewayClientCertPEM objects gateway with
        | .error _ => none
        | .ok cert => cert

end ClientCertificates

end TunnelGateway.ClusterResolvers
