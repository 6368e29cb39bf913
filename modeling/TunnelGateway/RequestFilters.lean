import TunnelGateway.Router
import TunnelGateway.UrlEncoding

/-!
What the filters of a rule do to a request before it is forwarded. A redirect
and the answer to a CORS preflight end the request; a header, redirect or rewrite
filter without payload is a nil dereference. A mirror filter reads the request
and leaves its head alone. Of the responses that end a request only the path of a
redirect is modelled, and bodies are not.
-/
namespace TunnelGateway.RequestFilters

open GoText ProxyConfig Matcher Router UrlEncoding

/-- A request as the handler receives it. `path` is the decoded path and
`rawPath` the spelling it came in, if that is not the default one; `forceQuery`
is a question mark with nothing behind it. -/
structure ProxyRequest extends Request where
  rawPath : String := ""
  rawQuery : String := ""
  forceQuery : Bool := false

def hostRewrittenHeader : String := "X-Proxy-Host-Rewritten"

def originalHostHeader : String := "X-Original-Host"

def isHostRewritten (header : Header) : Bool := header.get hostRewrittenHeader ≠ ""

def applyHeaderModifier (header : Header) (modifier : HeaderModifier) : Header :=
  let header := modifier.set.foldl (fun h v => h.set v.name v.value) header
  let header := modifier.add.foldl (fun h v => h.add v.name v.value) header
  modifier.remove.foldl Header.del header

/-- The joined path is cleaned only when there is a suffix. -/
def joinPathSegments (pre suffix : String) : String :=
  if suffix = "" then pre else cleanPath (pre ++ "/" ++ suffix)

/-- The raw path stays as it was. -/
def rewritePath (matchedPrefix : String) (cfg : URLRewritePath) (path : String) : String :=
  match cfg.type with
  | .replaceFullPath => cfg.replaceFullPath.getD path
  | .replacePrefixMatch =>
      match cfg.replacePrefixMatch with
      | some replacement =>
          if matchedPrefix ≠ "" then joinPathSegments replacement (trimPrefix path matchedPrefix)
          else path
      | none => path
  | .other _ => path

/-- The path of a redirect's location. -/
def buildRedirectPath (matchedPrefix : String) (cfg : RedirectConfig) (path : String) : String :=
  match cfg.path with
  | none => path
  | some replacement =>
      match replacement.type with
      | .replaceFullPath => replacement.value
      | .replacePrefixMatch =>
          if matchedPrefix ≠ "" then
            joinPathSegments replacement.value (trimPrefix path matchedPrefix)
          else replacement.value
      | .other _ => path

def rewriteHost (hostname : Option String) (req : ProxyRequest) : ProxyRequest :=
  match hostname with
  | some hostname =>
      { req with host := hostname, header := req.header.set hostRewrittenHeader "true" }
  | none => req

def rewriteURL (matchedPrefix : String) (cfg : URLRewriteConfig) (req : ProxyRequest) :
    ProxyRequest :=
  let req := rewriteHost cfg.hostname req
  match cfg.path with
  | some path => { req with path := rewritePath matchedPrefix path req.path }
  | none => req

def isCORSPreflight (req : ProxyRequest) : Bool :=
  req.method = "OPTIONS" && req.header.get "Access-Control-Request-Method" ≠ ""

inductive FilterOutcome where
  | next (req : ProxyRequest)
  | respond
  | nilPointer

/-- The request that goes on, if one does. -/
def FilterOutcome.passed : FilterOutcome → Option ProxyRequest
  | .next req => some req
  | _ => none

theorem FilterOutcome.passed_eq_some (outcome : FilterOutcome) (req : ProxyRequest) :
    outcome.passed = some req ↔ outcome = .next req := by
  cases outcome <;> simp [passed]

/-- `ProcessRequest` of each filter; `matchedPrefix` is the context value. -/
def processRequest (matchedPrefix : String) (req : ProxyRequest) : Filter → FilterOutcome
  | .requestHeaderModifier (some modifier) =>
      .next { req with header := applyHeaderModifier req.header modifier }
  | .requestHeaderModifier none => .nilPointer
  | .responseHeaderModifier _ => .next req
  | .requestRedirect (some _) => .respond
  | .requestRedirect none => .nilPointer
  | .urlRewriter (some cfg) => .next (rewriteURL matchedPrefix cfg req)
  | .urlRewriter none => .nilPointer
  | .requestMirror _ => .next req
  | .cors none => .next req
  | .cors (some _) => if isCORSPreflight req then .respond else .next req

def applyRequestFilters (matchedPrefix : String) : List Filter → ProxyRequest → FilterOutcome
  | [], req => .next req
  | filter :: rest, req =>
      match processRequest matchedPrefix req filter with
      | .next req => applyRequestFilters matchedPrefix rest req
      | .respond => .respond
      | .nilPointer => .nilPointer

end TunnelGateway.RequestFilters
