import TunnelGateway.Hostname
import Mathlib.Algebra.Order.Group.Int

/-!
The Gateway API objects the controller reads, and its view of the cluster. Only
fields the modelled code uses are kept. Invariants the API server enforces are
fields: names contain no slash, listener names are unique in their parent.
-/
namespace TunnelGateway.GatewayApi

open Hostname

def groupName : String := "gateway.networking.k8s.io"
def kindGateway : String := "Gateway"
def kindListenerSet : String := "ListenerSet"

@[ext]
structure NamespacedName where
  ns : String
  name : String
  ns_noSlash : '/' ∉ ns.toList
  name_noSlash : '/' ∉ name.toList
  deriving DecidableEq

/-- The name of an object; the separator has no place in either part. -/
def NamespacedName.of (ns name : String) : NamespacedName where
  ns := String.ofList (ns.toList.filter (· ≠ '/'))
  name := String.ofList (name.toList.filter (· ≠ '/'))
  ns_noSlash := by simp
  name_noSlash := by simp

/-- The map key "namespace/name". -/
def NamespacedName.key (n : NamespacedName) : String := n.ns ++ "/" ++ n.name

theorem NamespacedName.key_injective : Function.Injective NamespacedName.key := by
  intro a b h
  have hlist : a.ns.toList ++ '/' :: a.name.toList = b.ns.toList ++ '/' :: b.name.toList := by
    have := congrArg String.toList h
    simpa [NamespacedName.key] using this
  obtain ⟨hns, -, hname⟩ :=
    (List.append_cons_inj_of_notMem a.ns_noSlash a.name_noSlash).mp hlist
  cases b
  simp only [String.toList_inj] at hns hname
  subst hns hname
  rfl

theorem NamespacedName.slash_mem_key (n : NamespacedName) : '/' ∈ n.key.toList := by
  simp [NamespacedName.key]

inductive ProtocolType where
  | http
  | https
  | tls
  | tcp
  | udp
  | other (name : String)
  deriving DecidableEq

inductive FromNamespaces where
  | all
  | same
  | selector
  | none
  deriving DecidableEq

structure LabelSelectorRequirement where
  key : String
  operator : String
  values : List String
  deriving DecidableEq

structure LabelSelector where
  matchLabels : List (String × String)
  matchExpressions : List LabelSelectorRequirement
  deriving DecidableEq

/-- `RouteNamespaces` and `ListenerNamespaces`. -/
structure NamespaceFilter where
  source : Option FromNamespaces
  selector : Option LabelSelector
  deriving DecidableEq

structure RouteGroupKind where
  group : Option String
  kind : String
  deriving DecidableEq

structure AllowedRoutes where
  namespaces : Option NamespaceFilter
  kinds : List RouteGroupKind
  deriving DecidableEq

/-- A Gateway listener or a ListenerSet entry. -/
structure Listener where
  name : String
  hostname : Option Hostname
  port : ℕ
  protocol : ProtocolType
  allowedRoutes : Option AllowedRoutes
  deriving DecidableEq

structure SecretObjectReference where
  group : Option String
  kind : Option String
  name : String
  ns : Option String

structure Gateway where
  id : NamespacedName
  gatewayClassName : String
  listeners : List Listener
  /-- the namespaces filter of `spec.allowedListeners` -/
  allowedListeners : Option NamespaceFilter
  clientCertificateRef : Option SecretObjectReference
  names_nodup : (listeners.map Listener.name).Nodup

/-- A Gateway with one listener that nothing may be attached to. -/
def Gateway.withListener (id : NamespacedName) (gatewayClassName : String) (listener : Listener)
    (clientCertificateRef : Option SecretObjectReference) : Gateway where
  id := id
  gatewayClassName := gatewayClassName
  listeners := [listener]
  allowedListeners := none
  clientCertificateRef := clientCertificateRef
  names_nodup := by simp

structure ParentGatewayReference where
  ns : Option String
  name : String

structure ListenerSet where
  id : NamespacedName
  creationTimestamp : ℤ
  parentRef : ParentGatewayReference
  listeners : List Listener
  names_nodup : (listeners.map Listener.name).Nodup

structure GatewayClass where
  name : String
  controllerName : String

structure Namespace where
  name : String
  labels : List (String × String)

structure ParentReference where
  group : Option String
  kind : Option String
  ns : Option String
  name : String
  sectionName : Option String
  port : Option ℕ
  deriving DecidableEq

inductive RouteKind where
  | HTTPRoute
  | GRPCRoute
  deriving DecidableEq

def RouteKind.name : RouteKind → String
  | .HTTPRoute => "HTTPRoute"
  | .GRPCRoute => "GRPCRoute"

/-- What HTTPRoute and GRPCRoute have in common. -/
structure Route (Rule : Type) where
  id : NamespacedName
  creationTimestamp : ℤ
  parentRefs : List ParentReference
  hostnames : List Hostname
  rules : List Rule
  deriving DecidableEq

/-- The objects in the informer cache; reads do not fail. An invalid label
selector has no meaning. -/
structure Cluster where
  gateways : List Gateway
  listenerSets : List ListenerSet
  gatewayClasses : List GatewayClass
  namespaces : List Namespace
  labelSelectorAsSelector : LabelSelector → Option (List (String × String) → Bool)

namespace Cluster

variable (cluster : Cluster)

def getGateway (ns name : String) : Option Gateway :=
  cluster.gateways.find? fun g => g.id.ns = ns && g.id.name = name

def getListenerSet (ns name : String) : Option ListenerSet :=
  cluster.listenerSets.find? fun l => l.id.ns = ns && l.id.name = name

def getNamespace (name : String) : Option Namespace :=
  cluster.namespaces.find? fun n => n.name = name

def getGatewayClass (name : String) : Option GatewayClass :=
  cluster.gatewayClasses.find? fun c => c.name = name

/-- The classes whose controller name is ours. -/
def managedClassNames (controllerName : String) : List String :=
  (cluster.gatewayClasses.filter fun c => c.controllerName = controllerName).map GatewayClass.name

end Cluster

end TunnelGateway.GatewayApi
