import TunnelGateway.RouteConversion

/-!
What the controller reports about a route beside its binding: parts of the spec
that are not served as written, rules shadowed by another route, and data-plane
problems. A diagnostic is addressed to a route by namespace and name.
-/
namespace TunnelGateway.RouteDiagnostics

open RouteConversion GatewayApi

/-- The status surface a diagnostic is meant for. -/
inductive DiagnosticTarget where
  | accepted
  | resolvedRefs
  | shadowed
  | proxyConfigPush
  | tunnelShared
  | event
  deriving DecidableEq

structure RouteDiagnostic where
  ns : String
  name : String
  ruleIndex : ℕ := 0
  target : DiagnosticTarget
  reason : String := ""
  message : String
  wholeRule : Bool := false
  eventType : String := ""
  deriving DecidableEq

/-- What a converter finds in one rule, before the sink stamps the route on it. -/
structure Finding where
  ruleIndex : ℕ
  target : DiagnosticTarget
  reason : String := ""
  message : String
  wholeRule : Bool := false
  eventType : String := ""
  deriving DecidableEq

def Finding.stamp (finding : Finding) (route : NamespacedName) : RouteDiagnostic :=
  ⟨route.ns, route.name, finding.ruleIndex, finding.target, finding.reason, finding.message,
    finding.wholeRule, finding.eventType⟩

/-- One diagnostic for each route of a partition, one kind at a time. -/
def partitionRouteDiagnostics (ids : List NamespacedName) (target : DiagnosticTarget)
    (reason message : String) : List RouteDiagnostic :=
  ids.map fun id =>
    { ns := id.ns, name := id.name, target := target, reason := reason, message := message }

end TunnelGateway.RouteDiagnostics
