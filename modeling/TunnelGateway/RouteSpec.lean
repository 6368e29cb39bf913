import TunnelGateway.GatewayApi

/-!
Rules of HTTPRoute and GRPCRoute objects as the API server hands them out. Enum
fields keep an `other` value, since the converters have a branch for it. The
schema predicates hold the parts of the CRD validation that later results rely
on; the schema does not look at regular expressions, and an empty regular
expression is admitted.
-/
namespace TunnelGateway.RouteSpec

open GoText GatewayApi

inductive PathMatchType where
  | exact
  | pathPrefix
  | regularExpression
  | other (value : String)
  deriving DecidableEq

structure HTTPPathMatch where
  type : Option PathMatchType
  value : Option String
  deriving DecidableEq

/-- Header, query parameter and gRPC method matches share one pair of types. -/
inductive MatchType where
  | exact
  | regularExpression
  | other (value : String)
  deriving DecidableEq

structure HTTPHeaderMatch where
  type : Option MatchType
  name : String
  value : String
  deriving DecidableEq

structure HTTPQueryParamMatch where
  type : Option MatchType
  name : String
  value : String
  deriving DecidableEq

structure HTTPRouteMatch where
  path : Option HTTPPathMatch := none
  headers : List HTTPHeaderMatch := []
  queryParams : List HTTPQueryParamMatch := []
  method : Option String := none
  deriving DecidableEq

structure HTTPHeader where
  name : String
  value : String
  deriving DecidableEq

structure HTTPHeaderFilter where
  set : List HTTPHeader := []
  add : List HTTPHeader := []
  remove : List String := []
  deriving DecidableEq

inductive HTTPPathModifierType where
  | fullPath
  | prefixMatch
  | other (value : String)
  deriving DecidableEq

structure HTTPPathModifier where
  type : HTTPPathModifierType
  replaceFullPath : Option String := none
  replacePrefixMatch : Option String := none
  deriving DecidableEq

structure HTTPRequestRedirectFilter where
  scheme : Option String := none
  hostname : Option String := none
  path : Option HTTPPathModifier := none
  port : Option ℤ := none
  statusCode : Option ℤ := none
  deriving DecidableEq

structure HTTPURLRewriteFilter where
  hostname : Option String := none
  path : Option HTTPPathModifier := none
  deriving DecidableEq

structure BackendObjectReference where
  group : Option String := none
  kind : Option String := none
  name : String
  ns : Option String := none
  port : Option ℤ := none
  deriving DecidableEq

structure Fraction where
  numerator : ℤ
  denominator : Option ℤ
  deriving DecidableEq

structure HTTPRequestMirrorFilter where
  backendRef : BackendObjectReference
  percent : Option ℤ := none
  fraction : Option Fraction := none
  deriving DecidableEq

structure HTTPCORSFilter where
  allowOrigins : List String := []
  allowCredentials : Option Bool := none
  allowMethods : List String := []
  allowHeaders : List String := []
  exposeHeaders : List String := []
  maxAge : ℤ := 0
  deriving DecidableEq

inductive HTTPRouteFilterType where
  | requestHeaderModifier
  | responseHeaderModifier
  | requestRedirect
  | urlRewrite
  | requestMirror
  | cors
  | extensionRef
  | externalAuth
  | other (value : String)
  deriving DecidableEq

structure HTTPRouteFilter where
  type : HTTPRouteFilterType
  requestHeaderModifier : Option HTTPHeaderFilter := none
  responseHeaderModifier : Option HTTPHeaderFilter := none
  requestMirror : Option HTTPRequestMirrorFilter := none
  requestRedirect : Option HTTPRequestRedirectFilter := none
  urlRewrite : Option HTTPURLRewriteFilter := none
  cors : Option HTTPCORSFilter := none
  deriving DecidableEq

structure BackendRef extends BackendObjectReference where
  weight : Option ℤ := none
  deriving DecidableEq

structure HTTPBackendRef extends BackendRef where
  filters : List HTTPRouteFilter := []
  deriving DecidableEq

structure HTTPRouteTimeouts where
  request : Option String := none
  backendRequest : Option String := none
  deriving DecidableEq

structure HTTPRouteRule where
  routeMatches : List HTTPRouteMatch := []
  filters : List HTTPRouteFilter := []
  backendRefs : List HTTPBackendRef := []
  timeouts : Option HTTPRouteTimeouts := none
  deriving DecidableEq

structure GRPCMethodMatch where
  type : Option MatchType := none
  service : Option String := none
  method : Option String := none
  deriving DecidableEq

structure GRPCHeaderMatch where
  type : Option MatchType
  name : String
  value : String
  deriving DecidableEq

structure GRPCRouteMatch where
  method : Option GRPCMethodMatch := none
  headers : List GRPCHeaderMatch := []
  deriving DecidableEq

inductive GRPCRouteFilterType where
  | requestHeaderModifier
  | responseHeaderModifier
  | requestMirror
  | extensionRef
  | other (value : String)
  deriving DecidableEq

structure GRPCRouteFilter where
  type : GRPCRouteFilterType
  requestHeaderModifier : Option HTTPHeaderFilter := none
  responseHeaderModifier : Option HTTPHeaderFilter := none
  deriving DecidableEq

structure GRPCBackendRef extends BackendRef where
  filters : List GRPCRouteFilter := []
  deriving DecidableEq

structure GRPCRouteRule where
  routeMatches : List GRPCRouteMatch := []
  filters : List GRPCRouteFilter := []
  backendRefs : List GRPCBackendRef := []
  deriving DecidableEq

abbrev HTTPRoute := Route HTTPRouteRule
abbrev GRPCRoute := Route GRPCRouteRule

section Schema

/-- Only a regular expression may be anything but an absolute path. -/
def HTTPPathMatch.Admitted (pm : HTTPPathMatch) : Prop :=
  pm.type = some .regularExpression ∨ pm.value.any (hasPrefix · "/") = true

def HTTPRouteMatch.Admitted (m : HTTPRouteMatch) : Prop :=
  (∀ pm ∈ m.path, pm.Admitted) ∧ (∀ header ∈ m.headers, header.name ≠ "") ∧
    ∀ query ∈ m.queryParams, query.name ≠ ""

/-- The age is at least one where it is given. -/
def HTTPRouteFilter.Admitted (f : HTTPRouteFilter) : Prop := ∀ cors ∈ f.cors, 0 ≤ cors.maxAge

def HTTPRouteRule.Admitted (rule : HTTPRouteRule) : Prop :=
  (∀ m ∈ rule.routeMatches, m.Admitted) ∧ (∀ f ∈ rule.filters, f.Admitted) ∧
    ∀ ref ∈ rule.backendRefs, ∀ f ∈ ref.filters, f.Admitted

def GRPCRouteRule.Admitted (rule : GRPCRouteRule) : Prop :=
  ∀ m ∈ rule.routeMatches, ∀ header ∈ m.headers, header.name ≠ ""

instance (pm : HTTPPathMatch) : Decidable pm.Admitted := by
  unfold HTTPPathMatch.Admitted
  infer_instance

instance (m : HTTPRouteMatch) : Decidable m.Admitted := by
  unfold HTTPRouteMatch.Admitted
  infer_instance

instance (f : HTTPRouteFilter) : Decidable f.Admitted := by
  unfold HTTPRouteFilter.Admitted
  infer_instance

instance (rule : HTTPRouteRule) : Decidable rule.Admitted := by
  unfold HTTPRouteRule.Admitted
  infer_instance

end Schema

end TunnelGateway.RouteSpec
