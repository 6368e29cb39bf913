import TunnelGateway.RouteConversion
import TunnelGateway.RequestFilters
import TunnelGateway.SeparatedText
import TunnelGateway.SuffixPattern

/-!
The CORS filter. A preflight is answered at the request stage; any other
request goes to the backend and its response gains the headers on the way back.
The filters the CRD schema admits are described by the parts their entries are
put together from: an allowed origin is a scheme, a pattern for the labels of
the host and a port.
-/
namespace TunnelGateway.Cors

open GoText ProxyConfig Matcher RouteSpec RouteConversion RequestFilters

def corsWildcard : String := "*"

def defaultCORSMaxAgeSeconds : ℤ := 5

def headerOrigin : String := "Origin"

def headerAccessControlRequestMethod : String := "Access-Control-Request-Method"

def headerAccessControlRequestHeaders : String := "Access-Control-Request-Headers"

def headerAccessControlAllowOrigin : String := "Access-Control-Allow-Origin"

def headerAccessControlAllowCredentials : String := "Access-Control-Allow-Credentials"

def headerAccessControlAllowMethods : String := "Access-Control-Allow-Methods"

def headerAccessControlAllowHeaders : String := "Access-Control-Allow-Headers"

def headerAccessControlExposeHeaders : String := "Access-Control-Expose-Headers"

def headerAccessControlMaxAge : String := "Access-Control-Max-Age"

def splitOrigin (origin : String) : Option (String × String) :=
  match cut origin "://" with
  | some (scheme, rest) => if scheme = "" || rest = "" then none else some (scheme, rest)
  | none => none

/-- The suffix keeps the dot of the wildcard. -/
def hostMatchesPattern (host pattern : String) : Bool :=
  if pattern = host then true
  else if !hasPrefix pattern "*." then false
  else
    let suffix := sliceFrom pattern 1
    hasSuffix host suffix && len host > len suffix

def originMatchesPattern (origin pattern : String) : Bool :=
  if pattern = origin then true
  else
    match splitOrigin origin with
    | none => false
    | some (originScheme, originHost) =>
        match splitOrigin pattern with
        | none => false
        | some (patternScheme, patternHost) =>
            if originScheme ≠ patternScheme then false
            else hostMatchesPattern originHost patternHost

def originAllowed (origin : String) (allowOrigins : List String) : Bool :=
  if origin = "" || origin = corsWildcard || allowOrigins.isEmpty then false
  else allowOrigins.any fun allowed =>
    allowed = corsWildcard || originMatchesPattern origin allowed

/-- The value both negotiated lists are answered with. -/
def negotiatedValue (requested : String) (allowed : List String) (allowCredentials : Bool) :
    String :=
  if allowed.isEmpty then ""
  else if allowed = [corsWildcard] then
    if requested ≠ "" then requested
    else if allowCredentials then ""
    else corsWildcard
  else ", ".intercalate allowed

def allowedMethodsValue (requestedMethod : String) (cfg : CORSConfig) : String :=
  negotiatedValue requestedMethod cfg.allowMethods cfg.allowCredentials

def allowedHeadersValue (requestedHeaders : String) (cfg : CORSConfig) : String :=
  negotiatedValue requestedHeaders cfg.allowHeaders cfg.allowCredentials

/-- There is no requested value to echo. -/
def exposeHeadersValue (cfg : CORSConfig) : String :=
  if cfg.exposeHeaders.isEmpty then ""
  else if cfg.exposeHeaders = [corsWildcard] then
    if cfg.allowCredentials then "" else corsWildcard
  else ", ".intercalate cfg.exposeHeaders

def maxAgeSeconds (cfg : CORSConfig) : ℤ :=
  if cfg.maxAge ≤ 0 then defaultCORSMaxAgeSeconds else cfg.maxAge

def setUnlessEmpty (header : Header) (name value : String) : Header :=
  if value ≠ "" then header.set name value else header

def setCredentials (cfg : CORSConfig) (header : Header) : Header :=
  if cfg.allowCredentials then header.set headerAccessControlAllowCredentials "true" else header

def writePreflightHeaders (cfg : CORSConfig) (header : Header) (origin : String)
    (req : ProxyRequest) : Header :=
  let header := header.set headerAccessControlAllowOrigin origin
  let header := setCredentials cfg header
  let header := setUnlessEmpty header headerAccessControlAllowMethods
    (allowedMethodsValue (req.header.get headerAccessControlRequestMethod) cfg)
  let header := setUnlessEmpty header headerAccessControlAllowHeaders
    (allowedHeadersValue (req.header.get headerAccessControlRequestHeaders) cfg)
  let header := setUnlessEmpty header headerAccessControlExposeHeaders (exposeHeadersValue cfg)
  let header := header.set headerAccessControlMaxAge (toString (maxAgeSeconds cfg))
  let header := header.add "Vary" "Origin"
  let header := header.add "Vary" headerAccessControlRequestMethod
  header.add "Vary" headerAccessControlRequestHeaders

def writeSimpleHeaders (cfg : CORSConfig) (header : Header) (origin : String) : Header :=
  let header := header.set headerAccessControlAllowOrigin origin
  let header := setCredentials cfg header
  let header := setUnlessEmpty header headerAccessControlExposeHeaders (exposeHeadersValue cfg)
  header.add "Vary" "Origin"

def noHeader : Header := fun _ => []

/-- A request a page of the origin makes. -/
def originRequest (origin : String) : ProxyRequest :=
  { method := "GET", host := "api.example.com", path := "/", query := fun _ => [],
    header := noHeader.set headerOrigin origin }

structure Response where
  statusCode : ℕ
  header : Header

/-- `ProcessRequest`: the answer to a preflight. -/
def processPreflight (cfg : Option CORSConfig) (req : ProxyRequest) : Option Response :=
  match cfg with
  | none => none
  | some cfg =>
      if !isCORSPreflight req then none
      else
        let origin := req.header.get headerOrigin
        some ⟨204, if originAllowed origin cfg.allowOrigins then
          writePreflightHeaders cfg noHeader origin req else noHeader⟩

/-- `ProcessResponse` on the header of a response and the request it answers. -/
def processResponse (cfg : Option CORSConfig) (request : Option ProxyRequest) (header : Header) :
    Header :=
  match cfg, request with
  | some cfg, some req =>
      if isCORSPreflight req then header
      else
        let origin := req.header.get headerOrigin
        if origin = "" then header
        else if !originAllowed origin cfg.allowOrigins then header
        else writeSimpleHeaders cfg header origin
  | _, _ => header

/-- The header of the response before the filter: a preflight is answered afresh, any
other request by the backend. -/
def upstreamHeader (req : ProxyRequest) (backend : Header) : Header :=
  if isCORSPreflight req then noHeader else backend

/-- The header of the response after the filter. -/
def filteredHeader (cfg : CORSConfig) (req : ProxyRequest) (backend : Header) : Header :=
  match processPreflight (some cfg) req with
  | some resp => resp.header
  | none => processResponse (some cfg) (some req) backend

section Schema

open SuffixPattern

/-- Letters, digits and hyphens. -/
def isLabelChar (c : Char) : Bool := c.isAlphanum || c = '-'

/-- Labels of a host, none of them empty. -/
def Labels (labels : List (List Char)) : Prop :=
  ∀ label ∈ labels, label ≠ [] ∧ label.all isLabelChar = true

def Digits (port : Option (List Char)) : Prop := ∀ p ∈ port, p.all Char.isDigit = true

def dotted (labels : List (List Char)) : List Char := ['.'].intercalate labels

def portText : Option (List Char) → List Char
  | none => []
  | some port => ':' :: port

def siteText (scheme host : List Char) (port : Option (List Char)) : String :=
  String.ofList (scheme ++ "://".toList ++ (host ++ portText port))

/-- An origin a request names: a scheme, a host of labels and a port. -/
structure Origin where
  scheme : List Char
  labels : List (List Char)
  port : Option (List Char)
  scheme_ne : scheme ≠ []
  scheme_plain : ':' ∉ scheme
  labels_ne : labels ≠ []
  labels_ok : Labels labels
  port_ok : Digits port

def Origin.text (o : Origin) : String := siteText o.scheme (dotted o.labels) o.port

/-- The pattern for every host with the scheme and the port of an origin. -/
def Origin.anyHost (o : Origin) : String := siteText o.scheme ['*'] o.port

/-- A wildcard stands for one or more labels: alone for every host, before a domain for
every host below it. -/
def hostText : Pattern (List Char) → List Char
  | .exact labels => dotted labels
  | .under labels => dotted (['*'] :: labels)

def HostPattern : Pattern (List Char) → Prop
  | .exact labels => labels ≠ [] ∧ Labels labels
  | .under labels => Labels labels

/-- What the pattern of the CRD describes besides the lone wildcard. -/
structure OriginPattern where
  scheme : List Char
  host : Pattern (List Char)
  port : Option (List Char)
  scheme_ok : scheme = "http".toList ∨ scheme = "https".toList
  host_ok : HostPattern host
  port_ok : Digits port
  port_length : ∀ p ∈ port, 1 ≤ p.length ∧ p.length ≤ 5

def OriginPattern.text (p : OriginPattern) : String := siteText p.scheme (hostText p.host) p.port

def CORSOrigin (entry : String) : Prop :=
  (entry = "*" ∨ ∃ p : OriginPattern, entry = p.text) ∧ 1 ≤ entry.length ∧ entry.length ≤ 253

def httpMethodsWithWildcard : List String :=
  ["GET", "HEAD", "POST", "PUT", "DELETE", "CONNECT", "OPTIONS", "TRACE", "PATCH", "*"]

def isHeaderNameChar (c : Char) : Bool := c.isAlphanum || "!#$%&'*+-.^_`|~".toList.contains c

def HeaderName (name : String) : Prop :=
  name.toList.all isHeaderNameChar = true ∧ 1 ≤ name.length ∧ name.length ≤ 256

/-- A wildcard stands alone. -/
def LoneWildcard (entries : List String) : Prop := ¬ ("*" ∈ entries ∧ entries.length > 1)

/-- The CORS filters the CRD schema admits. -/
structure Admitted (filter : HTTPCORSFilter) : Prop where
  origins : ∀ entry ∈ filter.allowOrigins, CORSOrigin entry
  origins_set : filter.allowOrigins.Nodup ∧ filter.allowOrigins.length ≤ 64
  origins_wildcard : LoneWildcard filter.allowOrigins
  methods : ∀ method ∈ filter.allowMethods, method ∈ httpMethodsWithWildcard
  methods_set : filter.allowMethods.Nodup ∧ filter.allowMethods.length ≤ 9
  methods_wildcard : LoneWildcard filter.allowMethods
  headers : ∀ name ∈ filter.allowHeaders, HeaderName name
  headers_set : filter.allowHeaders.Nodup ∧ filter.allowHeaders.length ≤ 64
  headers_wildcard : LoneWildcard filter.allowHeaders
  expose : ∀ name ∈ filter.exposeHeaders, HeaderName name
  expose_set : filter.exposeHeaders.Nodup ∧ filter.exposeHeaders.length ≤ 64
  max_age : 1 ≤ filter.maxAge

end Schema

section Written

/-- The headers whose value is an origin or a list of names. -/
def listHeaders : List String :=
  [headerAccessControlAllowOrigin, headerAccessControlAllowMethods,
    headerAccessControlAllowHeaders, headerAccessControlExposeHeaders]

/-- The headers the filter writes besides them. -/
def otherHeaders : List String :=
  [headerAccessControlAllowCredentials, headerAccessControlMaxAge, "Vary"]

theorem canonicalHeaderKey_ne_other : ∀ name ∈ listHeaders, ∀ other ∈ otherHeaders,
    canonicalHeaderKey name ≠ canonicalHeaderKey other := by decide +kernel

theorem canonicalHeaderKey_inj : ∀ name ∈ listHeaders, ∀ other ∈ listHeaders,
    canonicalHeaderKey name = canonicalHeaderKey other → name = other := by decide +kernel

/-- The values of a header after a value was written, or left out for being empty. -/
def unlessEmpty (value : String) (values : List String) : List String :=
  if value ≠ "" then [value] else values

variable {name : String} (header : Header) (cfg : CORSConfig)

theorem values_setCredentials (hname : name ∈ listHeaders) :
    (setCredentials cfg header).values name = header.values name := by
  rw [setCredentials]
  split
  · exact Header.values_set_of_ne _ _ _
      (canonicalHeaderKey_ne_other name hname _ List.mem_cons_self)
  · rfl

theorem values_setUnlessEmpty (hname : name ∈ listHeaders) {other : String}
    (hother : other ∈ listHeaders) (value : String) :
    (setUnlessEmpty header other value).values name =
      if name = other then unlessEmpty value (header.values name) else header.values name := by
  rw [setUnlessEmpty, unlessEmpty]
  by_cases hsame : name = other
  · subst hsame
    split <;> simp
  · have hne : canonicalHeaderKey name ≠ canonicalHeaderKey other :=
      fun h => hsame (canonicalHeaderKey_inj name hname other hother h)
    split
    · exact Header.values_set_of_ne _ _ _ hne
    · rfl

theorem values_setOrigin (hname : name ∈ listHeaders) (origin : String) :
    (header.set headerAccessControlAllowOrigin origin).values name =
      if name = headerAccessControlAllowOrigin then [origin] else header.values name := by
  by_cases hsame : name = headerAccessControlAllowOrigin
  · subst hsame
    rw [if_pos rfl, Header.values_set]
  · rw [if_neg hsame]
    exact Header.values_set_of_ne _ _ _
      fun h => hsame (canonicalHeaderKey_inj name hname _ List.mem_cons_self h)

theorem values_addVary (hname : name ∈ listHeaders) (value : String) :
    (header.add "Vary" value).values name = header.values name :=
  Header.values_add_of_ne _ _ _ (canonicalHeaderKey_ne_other name hname "Vary" (by decide))

theorem values_setMaxAge (hname : name ∈ listHeaders) (value : String) :
    (header.set headerAccessControlMaxAge value).values name = header.values name :=
  Header.values_set_of_ne _ _ _ (canonicalHeaderKey_ne_other name hname _ (by decide))

variable (req : ProxyRequest)

/-- What the filter has to say in each of the list headers; nothing is written for "". -/
def offered (name : String) : String :=
  if name = headerAccessControlAllowOrigin then req.header.get headerOrigin
  else if name = headerAccessControlExposeHeaders then exposeHeadersValue cfg
  else if isCORSPreflight req = false then ""
  else if name = headerAccessControlAllowMethods then
    allowedMethodsValue (req.header.get headerAccessControlRequestMethod) cfg
  else allowedHeadersValue (req.header.get headerAccessControlRequestHeaders) cfg

theorem origin_ne_empty {origin : String} {entries : List String}
    (h : originAllowed origin entries = true) : origin ≠ "" := by
  rintro rfl
  simp [originAllowed] at h

theorem values_writePreflightHeaders (hname : name ∈ listHeaders)
    (hpreflight : isCORSPreflight req = true) (horigin : req.header.get headerOrigin ≠ "") :
    (writePreflightHeaders cfg header (req.header.get headerOrigin) req).values name =
      unlessEmpty (offered cfg req name) (header.values name) := by
  have hmethods : headerAccessControlAllowMethods ∈ listHeaders := by decide
  have hheaders : headerAccessControlAllowHeaders ∈ listHeaders := by decide
  have hexpose : headerAccessControlExposeHeaders ∈ listHeaders := by decide
  simp only [writePreflightHeaders, values_addVary _ hname, values_setMaxAge _ hname,
    values_setUnlessEmpty _ hname hexpose, values_setUnlessEmpty _ hname hheaders,
    values_setUnlessEmpty _ hname hmethods, values_setCredentials _ _ hname,
    values_setOrigin _ hname, offered, hpreflight]
  simp only [listHeaders, List.mem_cons, List.not_mem_nil, or_false] at hname
  rcases hname with rfl | rfl | rfl | rfl <;>
    simp [unlessEmpty, horigin, headerAccessControlAllowOrigin, headerAccessControlAllowMethods,
      headerAccessControlAllowHeaders, headerAccessControlExposeHeaders]

theorem values_writeSimpleHeaders (hname : name ∈ listHeaders)
    (hsimple : isCORSPreflight req = false) (horigin : req.header.get headerOrigin ≠ "") :
    (writeSimpleHeaders cfg header (req.header.get headerOrigin)).values name =
      unlessEmpty (offered cfg req name) (header.values name) := by
  have hexpose : headerAccessControlExposeHeaders ∈ listHeaders := by decide
  simp only [writeSimpleHeaders, values_addVary _ hname, values_setUnlessEmpty _ hname hexpose,
    values_setCredentials _ _ hname, values_setOrigin _ hname, offered, hsimple]
  simp only [listHeaders, List.mem_cons, List.not_mem_nil, or_false] at hname
  rcases hname with rfl | rfl | rfl | rfl <;>
    simp [unlessEmpty, horigin, headerAccessControlAllowOrigin, headerAccessControlAllowMethods,
      headerAccessControlAllowHeaders, headerAccessControlExposeHeaders]

/-- The list headers after the filter. -/
theorem values_filteredHeader (hname : name ∈ listHeaders) (backend : Header) :
    (filteredHeader cfg req backend).values name =
      if originAllowed (req.header.get headerOrigin) cfg.allowOrigins then
        unlessEmpty (offered cfg req name) ((upstreamHeader req backend).values name)
      else (upstreamHeader req backend).values name := by
  cases hallowed : originAllowed (req.header.get headerOrigin) cfg.allowOrigins with
  | false =>
    cases hpreflight : isCORSPreflight req <;>
      simp [filteredHeader, processPreflight, processResponse, upstreamHeader, hallowed, hpreflight]
  | true =>
    have horigin := origin_ne_empty hallowed
    cases hpreflight : isCORSPreflight req with
    | false =>
      simp only [filteredHeader, processPreflight, processResponse, upstreamHeader, hallowed,
        hpreflight, horigin]
      exact values_writeSimpleHeaders backend cfg req hname hpreflight horigin
    | true =>
      simp only [filteredHeader, processPreflight, upstreamHeader, hallowed, hpreflight]
      exact values_writePreflightHeaders noHeader cfg req hname hpreflight horigin

theorem values_allowOrigin (backend : Header) :
    (filteredHeader cfg req backend).values headerAccessControlAllowOrigin =
      if originAllowed (req.header.get headerOrigin) cfg.allowOrigins then
        [req.header.get headerOrigin]
      else (upstreamHeader req backend).values headerAccessControlAllowOrigin := by
  rw [values_filteredHeader cfg req List.mem_cons_self]
  split
  · rename_i hallowed
    rw [unlessEmpty, offered, if_pos rfl, if_pos (origin_ne_empty hallowed)]
  · rfl

end Written

end TunnelGateway.Cors
