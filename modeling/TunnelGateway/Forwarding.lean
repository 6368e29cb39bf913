import TunnelGateway.RequestFilters
import TunnelGateway.ServiceTarget

/-!
How the handler answers a request: route it, run the filters, pick the backend
and hand the request to one of two request builders, the Director of the reverse
proxy or the builder of a WebSocket upgrade. Timeouts, transports, response
filters, metrics and the bodies are not modelled. The two builders are compared
on what they put on the wire for routing: Host, path, query and the two internal
headers.
-/
namespace TunnelGateway.Forwarding

open GoText ProxyConfig Matcher Router UrlEncoding RequestFilters ServiceTarget

/-- A request to a backend. -/
structure OutRequest where
  method : String
  scheme : String
  urlHost : String
  path : String
  rawPath : String
  rawQuery : String
  forceQuery : Bool
  host : String
  header : Header

/-- Exactly one slash between the two. -/
def joinBackendBasePath (base reqPath : String) : String :=
  match hasSuffix base "/", hasPrefix reqPath "/" with
  | true, true => base ++ sliceFrom reqPath 1
  | false, false => base ++ "/" ++ reqPath
  | _, _ => base ++ reqPath

/-- Keys of the request win; what is left of the base goes behind the request's
own text. -/
def mergeBackendBaseQuery (baseRawQuery reqRawQuery : String) : String :=
  let baseValues := parseQuery baseRawQuery
  let reqValues := parseQuery reqRawQuery
  let extra := baseValues.filter fun entry => entry.1 ∉ reqValues.map Prod.fst
  if baseValues.isEmpty || extra.isEmpty then reqRawQuery
  else if reqRawQuery = "" then encodeValues extra
  else reqRawQuery ++ "&" ++ encodeValues extra

def joinPath (base path : String) : String :=
  if base ≠ "" ∧ base ≠ "/" then joinBackendBasePath base path else path

/-- The raw path is joined with the decoded base. -/
def joinRawPath (base rawPath : String) : String :=
  if rawPath ≠ "" then joinPath base rawPath else rawPath

def joinQuery (baseRawQuery rawQuery : String) : String :=
  if baseRawQuery ≠ "" then mergeBackendBaseQuery baseRawQuery rawQuery else rawQuery

def applyBackendBasePath (base baseRawQuery : String) (target : OutRequest) : OutRequest :=
  { target with
    path := joinPath base target.path
    rawPath := joinRawPath base target.rawPath
    rawQuery := joinQuery baseRawQuery target.rawQuery }

/-- An agent that sends no User-Agent keeps it that way. -/
def suppressUserAgent (header : Header) : Header :=
  if header.values "User-Agent" = [] then header.set "User-Agent" "" else header

/-- The Host the Director leaves in place. -/
def directorHost (req : ProxyRequest) : String :=
  if isHostRewritten req.header then req.host
  else if req.header.get originalHostHeader ≠ "" then req.header.get originalHostHeader
  else req.host

def directorHeader (header : Header) : Header :=
  let header := if isHostRewritten header then header.del hostRewrittenHeader else header
  suppressUserAgent (header.del originalHostHeader)

/-- The `Director` that `createReverseProxy` installs. -/
def director (backend : URL) (req : ProxyRequest) : OutRequest :=
  applyBackendBasePath backend.path backend.rawQuery
    { method := req.method
      scheme := backend.scheme
      urlHost := backend.host
      path := req.path
      rawPath := req.rawPath
      rawQuery := req.rawQuery
      forceQuery := req.forceQuery
      host := directorHost req
      header := directorHeader req.header }

/-- A clone with a URL built from scratch. -/
def buildBackendUpgradeRequest (backend : URL) (req : ProxyRequest) : OutRequest :=
  applyBackendBasePath backend.path backend.rawQuery
    { method := req.method
      scheme := backend.scheme
      urlHost := backend.host
      path := req.path
      rawPath := ""
      rawQuery := req.rawQuery
      forceQuery := false
      host := backend.host
      header := req.header }

/-- A comma-separated header value holds the token, ignoring case. -/
def containsToken (value token : String) : Bool :=
  (value.toList.splitOn ',').any fun part =>
    let blank := fun c => c = ' ' ∨ c = '\t'
    ((part.dropWhile blank).reverse.dropWhile blank).reverse.map Char.toLower = token.toList

def isHTTPUpgradeRequest (req : ProxyRequest) : Bool :=
  req.header.get "Upgrade" ≠ "" && (req.header.values "Connection").any (containsToken · "upgrade")

def shouldUseWebSocketUpgradePath (req : ProxyRequest) (operatorAllowsUpgrade : Bool) : Bool :=
  operatorAllowsUpgrade && isHTTPUpgradeRequest req

/-- What becomes of a request. A rule that is unavailable is answered with the
text of its status. -/
inductive Handled where
  | error (status : ℤ) (message : String)
  | grpcStatus (status message : String)
  | ruleUnavailable (status : ℤ)
  | filterResponse
  | nilPointer
  | forward (backendIdx : ℕ) (upgrade : Bool) (out : OutRequest)

section Handler

variable (lib : GoLib)

def proxyToBackend (req : ProxyRequest) (result : RouteResult) : Handled :=
  match result.backendIdx with
  | none => .error 500 "no backend available for this route"
  | some idx =>
    match result.rule.backends[idx]? with
    | none => .error 500 "no backend available for this route"
    | some backend =>
      if backend.unavailableStatus ≠ 0 then .error backend.unavailableStatus "backend unavailable"
      else
        match lib.parseURL backend.url with
        | .error _ => .error 500 "invalid backend URL"
        | .ok url =>
          if url.scheme = externalBackendScheme then .error 500 "backend unavailable"
          else if shouldUseWebSocketUpgradePath req backend.webSocket then
            .forward idx true (buildBackendUpgradeRequest url req)
          else .forward idx false (director url req)

def isGRPCRequest (req : ProxyRequest) : Bool :=
  hasPrefix (req.header.get "Content-Type") "application/grpc"

/-- The filters of the rule, then those of the backend. -/
def handleMatched (req : ProxyRequest) (result : RouteResult) : Handled :=
  if result.rule.unavailableStatus ≠ 0 then .ruleUnavailable result.rule.unavailableStatus
  else
    match applyRequestFilters result.matchedPrefix (result.filters ++ result.backendFilters) req with
    | .next req => proxyToBackend lib req result
    | .respond => .filterResponse
    | .nilPointer => .nilPointer

def serveHTTP (table : RoutingTable) (rand : ℕ → ℕ) (req : ProxyRequest) : Handled :=
  match route lib table rand req.toRequest with
  | some result => handleMatched lib req result
  | none =>
    if isGRPCRequest req then .grpcStatus "12" "no matching route"
    else .error 404 "no matching route"

end Handler

section Comparison

/-- What an outgoing request shows of its routing: the Host line, the path and
query of the request line, and the internal headers. -/
@[ext]
structure RoutingHead where
  host : String
  path : String
  query : Option String
  originalHost : List String
  hostRewritten : List String
  deriving DecidableEq

/-- An empty Host gives way to that of the URL, and a query is written when
there is one or a question mark was. -/
def OutRequest.routingHead (out : OutRequest) : RoutingHead where
  host := if out.host = "" then out.urlHost else out.host
  path := escapedPath out.path out.rawPath
  query := if out.forceQuery = true ∨ out.rawQuery ≠ "" then some out.rawQuery else none
  originalHost := out.header.values originalHostHeader
  hostRewritten := out.header.values hostRewrittenHeader

/-- The two builders show the same routing head, free of internal headers. -/
def BuildersAgree (backend : URL) (req : ProxyRequest) : Prop :=
  (buildBackendUpgradeRequest backend req).routingHead = (director backend req).routingHead ∧
    (director backend req).routingHead.originalHost = [] ∧
    (director backend req).routingHead.hostRewritten = []

instance (backend : URL) (req : ProxyRequest) : Decidable (BuildersAgree backend req) := by
  unfold BuildersAgree
  infer_instance

theorem values_suppressUserAgent (header : Header) {name : String}
    (hne : canonicalHeaderKey name ≠ canonicalHeaderKey "User-Agent") :
    (suppressUserAgent header).values name = header.values name := by
  unfold suppressUserAgent
  split
  · exact header.values_set_of_ne _ _ hne
  · rfl

theorem originalHost_directorHeader (header : Header) :
    (directorHeader header).values originalHostHeader = [] := by
  rw [directorHeader, values_suppressUserAgent _ (by decide +kernel), Header.values_del]

theorem hostRewritten_directorHeader (header : Header) :
    (directorHeader header).values hostRewrittenHeader =
      if isHostRewritten header then [] else header.values hostRewrittenHeader := by
  rw [directorHeader, values_suppressUserAgent _ (by decide +kernel),
    Header.values_del_of_ne _ _ (by decide +kernel)]
  split
  · exact header.values_del _
  · rfl

/-- Without internal headers the Director keeps the client's Host. -/
theorem directorHost_of_no_signal {req : ProxyRequest}
    (horiginal : req.header.values originalHostHeader = []) : directorHost req = req.host := by
  simp [directorHost, Header.get, horiginal]

theorem query_eq_iff (forceQuery : Bool) (rawQuery : String) :
    (if (false : Bool) = true ∨ rawQuery ≠ "" then some rawQuery else none) =
      (if forceQuery = true ∨ rawQuery ≠ "" then some rawQuery else none) ↔
      (forceQuery = true → rawQuery ≠ "") := by
  by_cases hquery : rawQuery = ""
  · cases forceQuery <;> simp
  · simp [hquery]

theorem host_eq_iff (backendHost host : String) :
    (if backendHost = "" then backendHost else backendHost) =
      (if host = "" then backendHost else host) ↔ host = "" ∨ host = backendHost := by
  by_cases hempty : host = ""
  · simp [hempty]
  · simp [hempty, eq_comm]

/-- The upgrade request shows the backend what the Director would show it
exactly when the request carries no internal header, its Host is already that of
the backend, its path has the default spelling and no lone question mark. -/
theorem builders_agree_iff (backend : URL) (req : ProxyRequest) :
    BuildersAgree backend req ↔
      req.header.values originalHostHeader = [] ∧ req.header.values hostRewrittenHeader = [] ∧
      (req.host = "" ∨ req.host = backend.host) ∧
      (EncodingOf (joinPath backend.path req.path) (joinRawPath backend.path req.rawPath) →
        joinRawPath backend.path req.rawPath = defaultEncoding (joinPath backend.path req.path)) ∧
      (req.forceQuery = true → joinQuery backend.rawQuery req.rawQuery ≠ "") := by
  have hrawPath : joinRawPath backend.path "" = "" := by simp [joinRawPath]
  constructor
  · intro hagree
    obtain ⟨hhead, -, hnone⟩ := hagree
    -- the upgrade request has the headers it came with
    have horiginal : req.header.values originalHostHeader = [] :=
      (congrArg RoutingHead.originalHost hhead).trans (originalHost_directorHeader req.header)
    have hrewritten : req.header.values hostRewrittenHeader = [] :=
      (congrArg RoutingHead.hostRewritten hhead).trans hnone
    have hhost := congrArg RoutingHead.host hhead
    have hpath := congrArg RoutingHead.path hhead
    change _ = (if directorHost req = "" then backend.host else directorHost req) at hhost
    rw [directorHost_of_no_signal horiginal] at hhost
    change escapedPath _ (joinRawPath backend.path "") = escapedPath _ _ at hpath
    rw [hrawPath, escapedPath_empty] at hpath
    exact ⟨horiginal, hrewritten, (host_eq_iff _ _).mp hhost,
      (escapedPath_eq_default_iff _ _).mp hpath.symm,
      (query_eq_iff _ _).mp (congrArg RoutingHead.query hhead)⟩
  · intro hcondition
    obtain ⟨horiginal, hrewritten, hhost, hpath, hquery⟩ := hcondition
    have hnoOriginal := originalHost_directorHeader req.header
    have hnoRewritten : (directorHeader req.header).values hostRewrittenHeader = [] := by
      rw [hostRewritten_directorHeader, hrewritten, ite_self]
    refine ⟨RoutingHead.ext ?_ ?_ ?_ ?_ ?_, hnoOriginal, hnoRewritten⟩
    · change _ = (if directorHost req = "" then backend.host else directorHost req)
      rw [directorHost_of_no_signal horiginal]
      exact (host_eq_iff _ _).mpr hhost
    · change escapedPath _ (joinRawPath backend.path "") = escapedPath _ _
      rw [hrawPath, escapedPath_empty]
      exact ((escapedPath_eq_default_iff _ _).mpr hpath).symm
    · exact (query_eq_iff _ _).mpr hquery
    · exact horiginal.trans hnoOriginal.symm
    · exact hrewritten.trans hnoRewritten.symm

/-- The routing head of a forwarded request, and whether it is an upgrade. -/
def Handled.head : Handled → Option (Bool × RoutingHead)
  | .forward _ upgrade out => some (upgrade, out.routingHead)
  | _ => none

def chatBackend : URL := ⟨"http", "chat.default.svc.cluster.local:8080", "", "", []⟩

def chatBackendRef : BackendRef where
  url := "http://chat.default.svc.cluster.local:8080"
  weight := 1
  webSocket := true

def chatRule : RouteRule where
  hostnames := ["app.example.com"]
  filters := [{ type := .urlRewrite, urlRewrite := some { hostname := some "chat.internal" } }]
  backends := [chatBackendRef]

/-- A request for a room whose name has a slash in it. -/
def chatRequest (upgrade : List String) : ProxyRequest where
  method := "GET"
  host := "edge.example.net"
  path := "/rooms/a/b"
  rawPath := "/rooms/a%2Fb"
  header name :=
    if name = "X-Original-Host" then ["app.example.com"]
    else if name = "Upgrade" ∨ name = "Connection" then upgrade else []
  query _ := []

def chatHead (upgrade : List String) : Option (Bool × RoutingHead) :=
  (compileRoutingTable GoLib.literal .stable ⟨1, [chatRule], false⟩).toOption.bind fun table =>
    (serveHTTP GoLib.literal table (fun _ => 0) (chatRequest upgrade)).head

/-- The same route shows its backend the rewritten host and the escaped slash,
and on an upgrade its own address, another path and the internal headers. -/
theorem upgrade_loses_host_and_path :
    chatHead [] = some (false, ⟨"chat.internal", "/rooms/a%2Fb", none, [], []⟩) ∧
      chatHead ["upgrade"] = some (true, ⟨"chat.default.svc.cluster.local:8080", "/rooms/a/b", none,
        ["app.example.com"], ["true"]⟩) ∧
      ¬ BuildersAgree chatBackend (chatRequest ["upgrade"]) := by
  decide +kernel

end Comparison

end TunnelGateway.Forwarding
