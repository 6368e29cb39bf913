import TunnelGateway.GoText

/-!
The wire configuration the controller pushes to a proxy replica and the
validation the replica applies before compiling it. Open string enumerations of
the source keep an `other` constructor for values outside the known set, since
the JSON decoder accepts them and only validation rejects them. Diagnostics are
controller-side only and are not part of this model.
-/
namespace TunnelGateway.ProxyConfig

inductive PathMatchType where
  | exact
  | pathPrefix
  | regularExpression
  | other (value : String)
  deriving DecidableEq

structure PathMatch where
  type : PathMatchType
  value : String
  deriving DecidableEq

/-- Header and query parameter matches share one pair of comparison types. -/
inductive ValueMatchType where
  | exact
  | regularExpression
  | other (value : String)
  deriving DecidableEq

structure HeaderMatch where
  type : ValueMatchType
  name : String
  value : String
  deriving DecidableEq

structure QueryParamMatch where
  type : ValueMatchType
  name : String
  value : String
  deriving DecidableEq

structure RouteMatch where
  path : Option PathMatch := none
  headers : List HeaderMatch := []
  queryParams : List QueryParamMatch := []
  method : String := ""
  deriving DecidableEq

inductive RouteFilterType where
  | requestHeaderModifier
  | responseHeaderModifier
  | requestRedirect
  | urlRewrite
  | requestMirror
  | cors
  | other (value : String)
  deriving DecidableEq

structure HeaderValue where
  name : String
  value : String
  deriving DecidableEq

structure HeaderModifier where
  set : List HeaderValue := []
  add : List HeaderValue := []
  remove : List String := []
  deriving DecidableEq

inductive PathReplaceType where
  | replaceFullPath
  | replacePrefixMatch
  | other (value : String)
  deriving DecidableEq

structure RedirectPath where
  type : PathReplaceType
  value : String
  deriving DecidableEq

structure RedirectConfig where
  scheme : Option String := none
  hostname : Option String := none
  port : Option ℤ := none
  path : Option RedirectPath := none
  statusCode : Option ℤ := none
  deriving DecidableEq

structure URLRewritePath where
  type : PathReplaceType
  replaceFullPath : Option String := none
  replacePrefixMatch : Option String := none
  deriving DecidableEq

structure URLRewriteConfig where
  hostname : Option String := none
  path : Option URLRewritePath := none
  deriving DecidableEq

inductive BackendProtocol where
  | http
  | h2c
  | other (value : String)
  deriving DecidableEq

structure BackendTLSConfig where
  caBundlePEM : String := ""
  serverName : String := ""
  subjectAltNames : List String := []
  subjectAltNameURIs : List String := []
  clientCertPEM : List UInt8 := []
  clientKeyPEM : List UInt8 := []
  deriving DecidableEq

structure MirrorConfig where
  backendURL : String
  percent : Option ℤ := none
  tls : Option BackendTLSConfig := none
  protocol : BackendProtocol := .http
  deriving DecidableEq

structure CORSConfig where
  allowOrigins : List String := []
  allowCredentials : Bool := false
  allowMethods : List String := []
  allowHeaders : List String := []
  exposeHeaders : List String := []
  maxAge : ℤ := 0
  deriving DecidableEq

structure RouteFilter where
  type : RouteFilterType
  requestHeaderModifier : Option HeaderModifier := none
  responseHeaderModifier : Option HeaderModifier := none
  requestRedirect : Option RedirectConfig := none
  urlRewrite : Option URLRewriteConfig := none
  requestMirror : Option MirrorConfig := none
  cors : Option CORSConfig := none
  deriving DecidableEq

structure BackendRef where
  url : String
  weight : ℤ
  protocol : BackendProtocol := .http
  tls : Option BackendTLSConfig := none
  filters : List RouteFilter := []
  webSocket : Bool := false
  unavailableStatus : ℤ := 0
  deriving DecidableEq

/-- Durations in nanoseconds; zero means unset. -/
structure RouteTimeouts where
  request : ℤ := 0
  backend : ℤ := 0
  deriving DecidableEq

structure RouteRule where
  hostnames : List String := []
  routeMatches : List RouteMatch := []
  filters : List RouteFilter := []
  backends : List BackendRef := []
  timeouts : Option RouteTimeouts := none
  unavailableStatus : ℤ := 0
  deriving DecidableEq

structure Config where
  version : ℤ
  rules : List RouteRule
  hasGRPCRoute : Bool := false
  deriving DecidableEq

end TunnelGateway.ProxyConfig
