import TunnelGateway.Matcher
import TunnelGateway.SortedBuckets

/-!
The proxy's routing table. A configuration is compiled into an exact-host map, a
list of wildcard suffixes sorted by length and the rules without hostnames; a
request is looked up in that order and falls through a bucket none of whose
rules match. Go ranges over the wildcard map in an unspecified order and then
sorts unstably, so the table is built under an arbitrary `WildcardOrder`.
Transport pruning and the startup signal of an update are not modelled.
-/
namespace TunnelGateway.Router

open GoText Fallible ProxyConfig Matcher

/-- An executable filter. The header, redirect, rewrite and CORS constructors
accept an absent payload, as the source's constructors accept a nil pointer. -/
inductive Filter where
  | requestHeaderModifier (mod : Option HeaderModifier)
  | responseHeaderModifier (mod : Option HeaderModifier)
  | requestRedirect (cfg : Option RedirectConfig)
  | urlRewriter (cfg : Option URLRewriteConfig)
  | requestMirror (cfg : MirrorConfig)
  | cors (cfg : Option CORSConfig)
  deriving DecidableEq

/-- A mirror without payload is a nil dereference in the source. -/
def compileFilter (f : RouteFilter) : Except String Filter :=
  match f.type with
  | .requestHeaderModifier => .ok (.requestHeaderModifier f.requestHeaderModifier)
  | .responseHeaderModifier => .ok (.responseHeaderModifier f.responseHeaderModifier)
  | .requestRedirect => .ok (.requestRedirect f.requestRedirect)
  | .urlRewrite => .ok (.urlRewriter f.urlRewrite)
  | .requestMirror =>
      match f.requestMirror with
      | some cfg => .ok (.requestMirror cfg)
      | none => .error "invalid memory address or nil pointer dereference"
  | .cors => .ok (.cors f.cors)
  | .other value => .error (value.quote ++ ": unknown filter type")

def compileFilters (filters : List RouteFilter) : Except String (List Filter) :=
  forEach (indexed "filter") (fun _ => compileFilter) filters

def priorityExactPath : ℕ := 1000000000
def priorityRegexPath : ℕ := 500000000
def priorityPrefixPath : ℕ := 100000000
def priorityPathLength : ℕ := 10000
def priorityMethod : ℕ := 100
def priorityPerHeader : ℕ := 10
def priorityPerQueryParam : ℕ := 1

/-- The running maxima of the precedence scan over a rule's matches. -/
structure PriorityScan where
  maxPathTypeScore : ℕ := 0
  maxPathLen : ℕ := 0
  hasMethod : Bool := false
  maxHeaders : ℕ := 0
  maxQueryParams : ℕ := 0
  deriving DecidableEq

def pathTypeScore : PathMatchType → ℕ
  | .exact => priorityExactPath
  | .pathPrefix => priorityPrefixPath
  | .regularExpression => priorityRegexPath
  | .other _ => 0

def PriorityScan.addPath (scan : PriorityScan) (pm : PathMatch) : PriorityScan :=
  if pathTypeScore pm.type > scan.maxPathTypeScore then
    { scan with maxPathTypeScore := pathTypeScore pm.type, maxPathLen := len pm.value }
  else if pathTypeScore pm.type = scan.maxPathTypeScore ∧ len pm.value > scan.maxPathLen then
    { scan with maxPathLen := len pm.value }
  else scan

def PriorityScan.add (scan : PriorityScan) (m : RouteMatch) : PriorityScan :=
  let scan := match m.path with
    | some pm => scan.addPath pm
    | none => scan
  { scan with
    hasMethod := scan.hasMethod || m.method != ""
    maxHeaders := max scan.maxHeaders m.headers.length
    maxQueryParams := max scan.maxQueryParams m.queryParams.length }

def PriorityScan.total (scan : PriorityScan) : ℕ :=
  scan.maxPathTypeScore + scan.maxPathLen * priorityPathLength +
    (if scan.hasMethod then priorityMethod else 0) +
    scan.maxHeaders * priorityPerHeader + scan.maxQueryParams * priorityPerQueryParam

/-- Precedence score of a rule: every component maximised over all its matches. -/
def computePriority (rule : RouteRule) : ℕ :=
  (rule.routeMatches.foldl PriorityScan.add {}).total

structure CompiledRule where
  routeMatches : List CompiledMatch
  rule : RouteRule
  filters : List Filter
  backendFilters : List (List Filter)
  priority : ℕ
  ruleIndex : ℕ

variable (lib : GoLib)

def compileRule (ruleIndex : ℕ) (rule : RouteRule) : Except String CompiledRule := do
  let routeMatches ← forEach (indexed "match") (fun _ => compileMatch lib) rule.routeMatches
  let filters ← wrap "compile filters" (compileFilters rule.filters)
  let backendFilters ← forEach (fun idx => indexed "backend" idx ++ " filters")
    (fun _ backend => compileFilters backend.filters) rule.backends
  return ⟨routeMatches, rule, filters, backendFilters, computePriority rule, ruleIndex⟩

/-- Higher priority first, then the earlier rule. -/
def precedes (a b : CompiledRule) : Prop :=
  b.priority < a.priority ∨ (a.priority = b.priority ∧ a.ruleIndex ≤ b.ruleIndex)

instance (a b : CompiledRule) : Decidable (precedes a b) := by
  unfold precedes
  infer_instance

def sortRulesByPrecedence (rules : List CompiledRule) : List CompiledRule :=
  rules.insertionSort precedes

structure WildcardEntry where
  suffix : String
  rules : List CompiledRule

/-- The order in which a map range and the unstable length sort leave the
wildcard entries: any permutation with the longer suffixes first. -/
structure WildcardOrder where
  arrange : List WildcardEntry → List WildcardEntry
  perm : ∀ entries, (arrange entries).Perm entries
  sorted : ∀ entries, (arrange entries).Pairwise (fun a b => len b.suffix ≤ len a.suffix)

/-- One such order: a stable sort of the entries as they come. -/
def WildcardOrder.stable : WildcardOrder where
  arrange entries := entries.insertionSort (fun a b => len b.suffix ≤ len a.suffix)
  perm entries := List.perm_insertionSort _ entries
  sorted entries :=
    haveI : Std.Total (fun a b : WildcardEntry => len b.suffix ≤ len a.suffix) :=
      ⟨fun a b => Nat.le_total (len b.suffix) (len a.suffix)⟩
    haveI : IsTrans WildcardEntry (fun a b => len b.suffix ≤ len a.suffix) :=
      ⟨fun _ _ _ hab hbc => hbc.trans hab⟩
    List.pairwise_insertionSort _ entries

structure RoutingTable where
  exactHosts : List (String × List CompiledRule)
  wildcardHosts : List WildcardEntry
  defaultRules : List CompiledRule
  version : ℤ

/-- The exact-host keys a rule is filed under. -/
def exactKeys (compiled : CompiledRule) : List (String × CompiledRule) :=
  compiled.rule.hostnames.filterMap fun hostname =>
    let normalized := toLower lib hostname
    if hasPrefix normalized "*." then none else some (normalized, compiled)

/-- The wildcard suffixes a rule is filed under; `*.example.com` gives `.example.com`. -/
def wildcardKeys (compiled : CompiledRule) : List (String × CompiledRule) :=
  compiled.rule.hostnames.filterMap fun hostname =>
    let normalized := toLower lib hostname
    if hasPrefix normalized "*." then some (sliceFrom normalized 1, compiled) else none

def buildTable (order : WildcardOrder) (version : ℤ) (compiled : List CompiledRule) :
    RoutingTable where
  exactHosts := (SortedBuckets.group (compiled.flatMap (exactKeys lib))).map fun bucket =>
    (bucket.1, sortRulesByPrecedence bucket.2)
  wildcardHosts := order.arrange <|
    (SortedBuckets.group (compiled.flatMap (wildcardKeys lib))).map fun bucket =>
      ⟨bucket.1, sortRulesByPrecedence bucket.2⟩
  defaultRules := sortRulesByPrecedence (compiled.filter (·.rule.hostnames.isEmpty))
  version := version

def compileRoutingTable (order : WildcardOrder) (cfg : Config) : Except String RoutingTable := do
  let compiled ← forEach (indexed "rule") (compileRule lib) cfg.rules
  return buildTable lib order cfg.version compiled

/-- A RequestMirror filter in the slice carries a TLS config. -/
def rulesHaveTLSMirror (filters : List RouteFilter) : Bool :=
  filters.any fun f => f.type == .requestMirror && f.requestMirror.any (·.tls.isSome)

def configHasTLSMirror (cfg : Config) : Bool :=
  cfg.rules.any fun rule =>
    rulesHaveTLSMirror rule.filters || rule.backends.any (rulesHaveTLSMirror ·.filters)

inductive UpdateError where
  | staleVersion (version current : ℤ)
  | tlsMirrorWithoutTransportFactory
  | compile (err : String)
  deriving DecidableEq

/-- Compile a configuration and swap it in. A positive version below the current
one is stale; the comparison does not apply to the unversioned zero. -/
def updateConfig (order : WildcardOrder) (hasTransportFactory : Bool) (current : RoutingTable)
    (cfg : Config) : Except UpdateError RoutingTable :=
  if cfg.version > 0 ∧ cfg.version < current.version then
    .error (.staleVersion cfg.version current.version)
  else if !hasTransportFactory && configHasTLSMirror cfg then
    .error .tlsMirrorWithoutTransportFactory
  else
    (compileRoutingTable lib order cfg).mapError fun err =>
      .compile ("failed to compile routing table: " ++ err)

/-- Cut a `:port` suffix unless the last colon lies inside an IPv6 literal. -/
def stripPort (host : String) : String :=
  let afterColon := host.toList.reverse.takeWhile (· != ':')
  if afterColon.length < host.toList.length ∧ ']' ∉ afterColon then
    String.ofList (host.toList.take (host.toList.length - (afterColon.length + 1)))
  else host

def extractHost (req : Request) : String :=
  let original := req.header.get "X-Original-Host"
  toLower lib (stripPort (if original = "" then req.host else original))

def matchesWildcard (host suffix : String) : Bool :=
  hasSuffix host suffix && decide (len suffix < len host)

/-- Index of the first match that fires; a rule without matches fires at zero. -/
def findMatchingIndex (compiled : CompiledRule) (req : Request) : Option ℕ :=
  if compiled.routeMatches.isEmpty then some 0
  else compiled.routeMatches.findIdx? (·.matchesRequest req)

def getMatchedPathPrefix (rule : RouteRule) (matchIdx : ℕ) : String :=
  match rule.routeMatches[matchIdx]?.bind (·.path) with
  | some pm => if pm.type = .pathPrefix then pm.value else ""
  | none => ""

def pickFrom (pick : ℤ) : ℕ → ℤ → List BackendRef → Option ℕ
  | _, _, [] => none
  | idx, cumulative, backend :: rest =>
      if pick < cumulative + backend.weight then some idx
      else pickFrom pick (idx + 1) (cumulative + backend.weight) rest

/-- Weighted choice; `rand n` stands for the random number below `n`. No
backend is chosen when there is none or when the weights sum to nothing. -/
def selectBackend (rand : ℕ → ℕ) (backends : List BackendRef) : Option ℕ :=
  let totalWeight := (backends.map (·.weight)).sum
  if backends.isEmpty || decide (totalWeight ≤ 0) then none
  else (pickFrom (rand totalWeight.toNat) 0 0 backends).or (some (backends.length - 1))

/-- A routing decision. `ruleIndex` is the identity of the rule pointer. -/
structure RouteResult where
  ruleIndex : ℕ
  rule : RouteRule
  filters : List Filter
  backendFilters : List Filter
  backendIdx : Option ℕ
  matchedPrefix : String
  matchedHostname : String := ""

def ruleResult (rand : ℕ → ℕ) (compiled : CompiledRule) (matchIdx : ℕ) : RouteResult :=
  let backendIdx := selectBackend rand compiled.rule.backends
  { ruleIndex := compiled.ruleIndex
    rule := compiled.rule
    filters := compiled.filters
    backendFilters := (backendIdx.bind (compiled.backendFilters[·]?)).getD []
    backendIdx := backendIdx
    matchedPrefix := getMatchedPathPrefix compiled.rule matchIdx }

/-- The first rule of a sorted bucket that matches. -/
def matchRules (rand : ℕ → ℕ) (req : Request) : List CompiledRule → Option RouteResult
  | [] => none
  | compiled :: rest =>
      match findMatchingIndex compiled req with
      | some matchIdx => some (ruleResult rand compiled matchIdx)
      | none => matchRules rand req rest

def routeWildcard (rand : ℕ → ℕ) (req : Request) (host : String) :
    List WildcardEntry → Option RouteResult
  | [] => none
  | entry :: rest =>
      match if matchesWildcard host entry.suffix then matchRules rand req entry.rules else none with
      | some result => some { result with matchedHostname := "*" ++ entry.suffix }
      | none => routeWildcard rand req host rest

/-- Exact host, then wildcard suffixes, then the rules without hostnames. -/
def route (table : RoutingTable) (rand : ℕ → ℕ) (req : Request) : Option RouteResult :=
  let host := extractHost lib req
  match (table.exactHosts.lookup host).bind (matchRules rand req) with
  | some result => some { result with matchedHostname := host }
  | none =>
    match routeWildcard rand req host table.wildcardHosts with
    | some result => some result
    | none => matchRules rand req table.defaultRules

end TunnelGateway.Router
