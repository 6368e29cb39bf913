import TunnelGateway.BackendPasses

/-!
The backend references that the ingress builder could not resolve. It looks at
every reference that carries traffic and reports the ones of an unsupported
kind, without permission, or without their object; it does not look at the ports
of a Service. A failure names the backend by name, namespace, port and domain.
-/
namespace TunnelGateway.FailedRefs

open GoText GatewayApi RouteSpec ClusterObjects ServiceTarget ClusterResolvers BackendPasses

inductive BackendRefReason where
  | invalidKind
  | refNotPermitted
  | backendNotFound
  | unsupportedValue
  deriving DecidableEq

/-- An empty domain stands for the cluster's own. -/
structure BackendRefError where
  routeNamespace : String
  routeName : String
  backendName : String
  backendNS : String := ""
  port : ℤ
  reason : BackendRefReason
  message : String
  domain : String := ""
  deriving DecidableEq

inductive BackendTargetKind where
  | service
  | serviceImport
  | external
  deriving DecidableEq

/-- The group that permission is checked against: the source always asks for the
empty core group. -/
def BackendTargetKind.group : BackendTargetKind → String
  | .service => ""
  | .serviceImport => serviceImportGroup
  | .external => externalBackendGroup

def BackendTargetKind.kind : BackendTargetKind → String
  | .service => "Service"
  | .serviceImport => serviceImportKind
  | .external => externalBackendKind

section Resolve

variable (objects : Objects) (lib : GoLib) (clusterDomain : String) (routeKind : RouteKind)
  (routeNS routeName : String)

def validateBackendGroupKind (ref : RouteSpec.BackendRef) :
    Except BackendRefError BackendTargetKind :=
  let group := ref.group.getD ""
  let kind := ref.kind.getD "Service"
  if (group = "" ∨ group = "core") ∧ kind = "Service" then .ok .service
  else if group = serviceImportGroup ∧ kind = serviceImportKind then .ok .serviceImport
  else if group = externalBackendGroup ∧ kind = externalBackendKind then .ok .external
  else .error {
    routeNamespace := routeNS
    routeName := routeName
    backendName := ref.name
    port := refPort ref.toBackendObjectReference
    reason := .invalidKind
    message := "unsupported backend " ++ group ++ "/" ++ kind ++
      ", only Service, ServiceImport and ExternalBackend are supported" }

def validateCrossNamespaceRef (target : BackendTargetKind) (svc : ServiceKey) : Bool :=
  isReferenceAllowed objects ⟨groupName, routeKindName routeKind, routeNS, routeName⟩
    ⟨target.group, target.kind, svc.ns, svc.name⟩

/-- A failure of a reference whose kind is supported. -/
def targetError (target : BackendTargetKind) (svc : ServiceKey) (reason : BackendRefReason)
    (message : String) : BackendRefError where
  routeNamespace := routeNS
  routeName := routeName
  backendName := svc.name
  backendNS := svc.ns
  port := svc.port
  reason := reason
  message := message
  domain := if target = .serviceImport then clustersetDomain else ""

def objectPath (svc : ServiceKey) : String := svc.ns ++ "/" ++ svc.name

/-- The checks after permission, for each kind of object. -/
def resolveTarget (target : BackendTargetKind) (svc : ServiceKey) :
    Except BackendRefError String :=
  let fail := fun reason message => .error (targetError routeNS routeName target svc reason message)
  match target with
  | .service =>
      match objects.getService svc.ns svc.name with
      | none => fail .backendNotFound ("Service " ++ objectPath svc ++ " not found")
      | some service =>
          match service.type with
          | .externalName host =>
              .ok (serviceScheme svc.port ++ "://" ++ host ++ ":" ++ toString svc.port)
          | .other _ =>
              .ok (serviceScheme svc.port ++ "://" ++ svc.name ++ "." ++ svc.ns ++ ".svc." ++
                clusterDomain ++ ":" ++ toString svc.port)
  | .serviceImport =>
      match objects.getServiceImport svc.ns svc.name with
      | none => fail .backendNotFound ("ServiceImport " ++ objectPath svc ++ " not found")
      | some imported =>
          if svc.port ∉ imported.ports then
            fail .backendNotFound ("ServiceImport " ++ objectPath svc ++
              " does not export port " ++ toString svc.port)
          else
            .ok (serviceScheme svc.port ++ "://" ++ svc.name ++ "." ++ svc.ns ++ ".svc." ++
              clustersetDomain ++ ":" ++ toString svc.port)
  | .external =>
      match objects.getExternalBackend svc.ns svc.name with
      | none => fail .backendNotFound ("ExternalBackend " ++ objectPath svc ++ " not found")
      | some external =>
          match validateExternal lib external.spec with
          | .error err =>
              fail .unsupportedValue ("ExternalBackend " ++ objectPath svc ++
                " is malformed: " ++ err)
          | .ok _ => .ok (externalURL external.spec)

def resolveValidatedBackend (ref : RouteSpec.BackendRef) : Except BackendRefError String :=
  match validateBackendGroupKind routeNS routeName ref with
  | .error err => .error err
  | .ok target =>
      let objRef := ref.toBackendObjectReference
      let svc : ServiceKey := ⟨refNamespace objRef routeNS, ref.name, refPort objRef⟩
      if routeNS ≠ svc.ns ∧
          !validateCrossNamespaceRef objects routeKind routeNS routeName target svc then
        .error (targetError routeNS routeName target svc .refNotPermitted
          ("cross-namespace backend reference to " ++ objectPath svc ++
            " not permitted by ReferenceGrant"))
      else resolveTarget objects lib clusterDomain routeNS routeName target svc

/-- The first reference of the greatest weight above zero. -/
def selectHighestWeight (refs : List RouteSpec.BackendRef) : Option RouteSpec.BackendRef :=
  refs.foldl (fun best ref =>
    if refWeight ref = 0 then best
    else
      match best with
      | none => some ref
      | some incumbent => if refWeight ref > refWeight incumbent then some ref else best) none

/-- The service of the tunnel's ingress entry, and the failures of the rule. -/
def resolveRuleBackendRefs (refs : List RouteSpec.BackendRef) : String × List BackendRefError :=
  let resolve := resolveValidatedBackend objects lib clusterDomain routeKind routeNS routeName
  match selectHighestWeight refs with
  | none => ("", [])
  | some selected =>
      ((resolve selected).toOption.getD "",
        (refs.filter fun ref => refWeight ref ≠ 0).filterMap fun ref =>
          match resolve ref with
          | .error err => some err
          | .ok _ => none)

end Resolve

section Routes

variable (objects : Objects) (lib : GoLib) (clusterDomain : String) {Rule : Type}

def routeFailedRefs (kind : RouteKind) (refsOf : Rule → List RouteSpec.BackendRef)
    (route : Route Rule) : List BackendRefError :=
  route.rules.flatMap fun rule =>
    (resolveRuleBackendRefs objects lib clusterDomain kind route.id.ns route.id.name
      (refsOf rule)).2

def httpBackendRefs (rule : HTTPRouteRule) : List RouteSpec.BackendRef :=
  rule.backendRefs.map HTTPBackendRef.toBackendRef

def grpcBackendRefs (rule : GRPCRouteRule) : List RouteSpec.BackendRef :=
  rule.backendRefs.map GRPCBackendRef.toBackendRef

/-- The failures `Build` reports for the HTTPRoutes it is given. -/
def httpFailedRefs (routes : List HTTPRoute) : List BackendRefError :=
  routes.flatMap (routeFailedRefs objects lib clusterDomain .HTTPRoute httpBackendRefs)

def grpcFailedRefs (routes : List GRPCRoute) : List BackendRefError :=
  routes.flatMap (routeFailedRefs objects lib clusterDomain .GRPCRoute grpcBackendRefs)

end Routes

end TunnelGateway.FailedRefs
