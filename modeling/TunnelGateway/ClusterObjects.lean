import TunnelGateway.RouteSpec

/-!
Cluster objects read while a configuration is built, beside the Gateways: what
backend references point at and what permits or secures them. Certificate
parsing is a parameter.
-/
namespace TunnelGateway.ClusterObjects

open GatewayApi

structure Secret where
  id : NamespacedName
  type : String
  tlsCert : List UInt8
  tlsPrivateKey : List UInt8

structure ReferenceGrantFrom where
  group : String
  kind : String
  ns : String

structure ReferenceGrantTo where
  group : String
  kind : String
  name : Option String

structure ReferenceGrant where
  ns : String
  sources : List ReferenceGrantFrom
  targets : List ReferenceGrantTo

inductive TargetPort where
  | number (value : ℤ)
  | named (value : String)
  deriving DecidableEq

structure ServicePort where
  name : String
  port : ℤ
  targetPort : TargetPort
  appProtocol : Option String

inductive ServiceType where
  | externalName (host : String)
  | other (name : String)
  deriving DecidableEq

structure Service where
  id : NamespacedName
  type : ServiceType
  clusterIP : String
  ports : List ServicePort

structure EndpointPort where
  name : Option String
  port : Option ℤ

structure Endpoint where
  addresses : List String
  ready : Option Bool

/-- `serviceName` is the label that ties a slice to its Service. -/
structure EndpointSlice where
  ns : String
  serviceName : String
  ports : List EndpointPort
  endpoints : List Endpoint

structure ServiceImport where
  id : NamespacedName
  ports : List ℤ

structure ExternalBackendSpec where
  scheme : String
  host : String
  port : ℤ
  path : String

structure ExternalBackend where
  id : NamespacedName
  spec : ExternalBackendSpec

structure ConfigMap where
  id : NamespacedName
  caCert : Option String

inductive SubjectAltName where
  | hostname (value : String)
  | uri (value : String)
  | other (type : String)
  deriving DecidableEq

structure PolicyTargetRef where
  kind : String
  name : String
  sectionName : Option String

structure LocalObjectReference where
  group : String
  kind : String
  name : String

structure BackendTLSPolicy where
  id : NamespacedName
  creationTimestamp : ℤ
  targetRefs : List PolicyTargetRef
  caCertificateRefs : List LocalObjectReference
  hostname : String
  subjectAltNames : List SubjectAltName

/-- The informer cache; reads do not fail. -/
structure Objects extends Cluster where
  secrets : List Secret := []
  referenceGrants : List ReferenceGrant := []
  services : List Service := []
  endpointSlices : List EndpointSlice := []
  serviceImports : List ServiceImport := []
  externalBackends : List ExternalBackend := []
  configMaps : List ConfigMap := []
  backendTLSPolicies : List BackendTLSPolicy := []
  parsesCABundle : String → Bool
  x509KeyPair : List UInt8 → List UInt8 → Bool

def named (ns name : String) (id : NamespacedName) : Bool := id.ns = ns && id.name = name

namespace Objects

variable (objects : Objects)

def getSecret (ns name : String) : Option Secret :=
  objects.secrets.find? (named ns name ·.id)

def getService (ns name : String) : Option Service :=
  objects.services.find? (named ns name ·.id)

def getServiceImport (ns name : String) : Option ServiceImport :=
  objects.serviceImports.find? (named ns name ·.id)

def getExternalBackend (ns name : String) : Option ExternalBackend :=
  objects.externalBackends.find? (named ns name ·.id)

def getConfigMap (ns name : String) : Option ConfigMap :=
  objects.configMaps.find? (named ns name ·.id)

def endpointSlicesOf (ns serviceName : String) : List EndpointSlice :=
  objects.endpointSlices.filter fun slice => slice.ns = ns && slice.serviceName = serviceName

end Objects

end TunnelGateway.ClusterObjects
