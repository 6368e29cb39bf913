import Mathlib.Data.Finset.Card
import Mathlib.Data.Finset.Range
import TunnelGateway.StatusSelection

/-!
What the converters report while they convert. The source hands one sink to every
leaf of the two converters and stamps the rule index on what it is told; here a
leaf returns its notes beside the value it is converted to. A rule answers 500
exactly when one of its notes says that the whole rule fails.
-/
namespace TunnelGateway.ConverterFindings

open GoText GatewayApi RouteSpec ProxyConfig ServiceTarget RouteConversion RouteDiagnostics
open BuildConfig RouteOrigin EffectiveHostnames ShadowDetection StatusSelection RouteStatus DedupBy

section Notes

/-- What a leaf tells the sink. -/
structure Note where
  target : DiagnosticTarget
  reason : String := ""
  message : String
  wholeRule : Bool := false
  eventType : String := ""
  deriving DecidableEq

def Note.at (note : Note) (ruleIndex : ℕ) : Finding :=
  ⟨ruleIndex, note.target, note.reason, note.message, note.wholeRule, note.eventType⟩

def Note.failsRule (note : Note) : Bool := note.target = .accepted && note.wholeRule

inductive FilterScope where
  | rule
  | backend
  deriving DecidableEq

def FilterScope.text : FilterScope → String
  | .rule => "rule"
  | .backend => "backend"

def httpFilterTypeText : HTTPRouteFilterType → String
  | .requestHeaderModifier => "RequestHeaderModifier"
  | .responseHeaderModifier => "ResponseHeaderModifier"
  | .requestRedirect => "RequestRedirect"
  | .urlRewrite => "URLRewrite"
  | .requestMirror => "RequestMirror"
  | .cors => "CORS"
  | .extensionRef => "ExtensionRef"
  | .externalAuth => "ExternalAuth"
  | .other value => value

def grpcFilterTypeText : GRPCRouteFilterType → String
  | .requestHeaderModifier => "RequestHeaderModifier"
  | .responseHeaderModifier => "ResponseHeaderModifier"
  | .requestMirror => "RequestMirror"
  | .extensionRef => "ExtensionRef"
  | .other value => value

def unsupportedFilterMessage (scope filterType : String) : String :=
  scope ++ " filter type " ++ filterType.quote ++
    " is not supported; matching requests receive HTTP 500. " ++
    "Remove the filter or replace it with a supported type " ++
    "(RequestHeaderModifier, ResponseHeaderModifier, RequestRedirect, URLRewrite, " ++
    "RequestMirror, CORS)."

def unsupportedGRPCFilterMessage (scope filterType : String) : String :=
  "GRPCRoute filter type " ++ filterType.quote ++ " on this " ++ scope ++
    " is not supported; matching requests receive HTTP 500. " ++
    "Remove the filter or replace it with a supported type " ++
    "(RequestHeaderModifier, ResponseHeaderModifier)."

/-- A filter of a rule takes the whole rule down, one of a backend its share. -/
def unsupportedFilter (scope : FilterScope) (message : String) : Note where
  target := .accepted
  reason := "UnsupportedValue"
  message := message
  wholeRule := scope = .rule

def mirrorDropDiagnostic (reason mirrorName detail : String) : Note where
  target := .resolvedRefs
  reason := reason
  message := "The RequestMirror to Service " ++ mirrorName.quote ++ " was dropped because " ++
    detail ++ "; the main request is unaffected."

variable (resolvers : Resolvers)

def validateMirrorBackendRefNotes (mirror : HTTPRequestMirrorFilter) (ns : String) : List Note :=
  let mirrorName := mirror.backendRef.name
  let mirrorPort := refPort mirror.backendRef
  let mirrorNS := refNamespace mirror.backendRef ns
  if !isMirrorableBackendRef mirror.backendRef then
    [mirrorDropDiagnostic "InvalidKind" mirrorName
      ("its backendRef must be a Service or ServiceImport " ++
        "(ExternalBackend is not supported as a mirror destination)")]
  else if !validatePort mirrorPort then
    [mirrorDropDiagnostic "UnsupportedValue" mirrorName
      ("its backendRef port " ++ toString mirrorPort ++ " is out of range")]
  else if !validateCrossNamespace resolvers mirrorNS ns mirror.backendRef then
    [mirrorDropDiagnostic "RefNotPermitted" mirrorName
      ("its cross-namespace backendRef to " ++ mirrorNS.quote ++
        " is not permitted by a ReferenceGrant")]
  else []

def convertFilterNotes (ns : String) (scope : FilterScope) (filter : HTTPRouteFilter) :
    List Note :=
  match filter.type with
  | .requestMirror =>
      filter.requestMirror.elim [] fun mirror => validateMirrorBackendRefNotes resolvers mirror ns
  | .extensionRef | .externalAuth | .other _ =>
      [unsupportedFilter scope
        (unsupportedFilterMessage scope.text (httpFilterTypeText filter.type))]
  | .requestHeaderModifier | .responseHeaderModifier | .requestRedirect | .urlRewrite | .cors => []

def convertGRPCFilterNotes (scope : FilterScope) (filter : GRPCRouteFilter) : List Note :=
  match filter.type with
  | .requestHeaderModifier | .responseHeaderModifier => []
  | .requestMirror | .extensionRef | .other _ =>
      [unsupportedFilter scope
        (unsupportedGRPCFilterMessage scope.text (grpcFilterTypeText filter.type))]

def unpolicedTLSMessage (serviceName appProto : String) : String :=
  "Service " ++ serviceName.quote ++ " declares appProtocol " ++ appProto.quote ++
    " but no BackendTLSPolicy targets it; " ++
    "the proxy has no CA to verify the backend, so requests to it receive HTTP 502. " ++
    "Attach a BackendTLSPolicy to the Service to enable TLS to this backend."

def unknownAppProtocolMessage (serviceName appProto : String) : String :=
  "Service " ++ serviceName.quote ++ " declares an unsupported appProtocol " ++ appProto.quote ++
    "; the proxy serves it over HTTP/1.1. " ++
    "Use a supported value (kubernetes.io/h2c, kubernetes.io/ws, kubernetes.io/wss, https) " ++
    "or remove the appProtocol if HTTP/1.1 is correct."

def unsupportedProtocol (message : String) : Note where
  target := .resolvedRefs
  reason := "UnsupportedProtocol"
  message := message

def unpolicedTLSAppProtocolNotes (tlsAttached : Bool) (serviceName appProto : String) :
    List Note :=
  if tlsAttached then [] else [unsupportedProtocol (unpolicedTLSMessage serviceName appProto)]

/-- TLS overrides a cleartext hint; the operator is told by an event. -/
def warnCleartextHintSuppressed (message : String) : Note where
  target := .event
  message := message
  eventType := "Normal"

def resolveBackendProtocolNotes (ns serviceName : String) (port : ℤ) (tlsAttached : Bool) :
    List Note :=
  let appProto := resolvers.protocolResolver ns serviceName port
  if appProto = appProtocolH2C then
    if tlsAttached then
      [warnCleartextHintSuppressed
        ("appProtocol kubernetes.io/h2c suppressed by BackendTLSPolicy on the same Service — " ++
          "HTTP/2 will be negotiated over TLS via ALPN")]
    else []
  else if appProto = appProtocolWS then
    if tlsAttached then
      [warnCleartextHintSuppressed
        ("appProtocol kubernetes.io/ws suppressed by BackendTLSPolicy on the same Service — " ++
          "WebSocket will run over TLS (consider appProtocol kubernetes.io/wss instead)")]
    else []
  else if appProto = appProtocolWSS ∨ appProto = schemeHTTPS ∨ appProto = schemeHTTPSUpper then
    unpolicedTLSAppProtocolNotes tlsAttached serviceName appProto
  else if appProto = "" ∨ appProto = "http" ∨ appProto = "HTTP" then []
  else [unsupportedProtocol (unknownAppProtocolMessage serviceName appProto)]

def convertFiltersNotes (ns : String) (scope : FilterScope) (filters : List HTTPRouteFilter) :
    List Note :=
  filters.flatMap (convertFilterNotes resolvers ns scope)

def convertGRPCFiltersNotes (scope : FilterScope) (filters : List GRPCRouteFilter) : List Note :=
  filters.flatMap (convertGRPCFilterNotes scope)

/-- A policy, with or without the client certificate of the Gateway. -/
def tlsAttached (clientCert : Option ClientCertConfig) (svcNamespace serviceName : String)
    (port : ℤ) (url : String) : Bool :=
  (attachGatewayClientCert (resolveBackendTLS resolvers svcNamespace serviceName port url).1
    clientCert).isSome

def convertBackendRefNotes (ns : String) (clientCert : Option ClientCertConfig)
    (ref : HTTPBackendRef) : List Note :=
  match resolveCommonBackendRef resolvers ref.toBackendRef ns with
  | .dropped | .final _ => []
  | .external _ svcNamespace _ =>
      if !validateCrossNamespace resolvers svcNamespace ns ref.toBackendObjectReference then []
      else convertFiltersNotes resolvers ns .backend ref.filters
  | .resolved backend svcNamespace serviceName port =>
      resolveBackendProtocolNotes resolvers svcNamespace serviceName port
          (tlsAttached resolvers clientCert svcNamespace serviceName port backend.url) ++
        convertFiltersNotes resolvers ns .backend ref.filters

def applyGRPCBackendTransportNotes (clientCert : Option ClientCertConfig)
    (backend : ProxyConfig.BackendRef) (svcNamespace serviceName : String) (port : ℤ) :
    List Note :=
  let appProto := resolvers.protocolResolver svcNamespace serviceName port
  if tlsAttached resolvers clientCert svcNamespace serviceName port backend.url then []
  else if isTLSAppProtocol appProto then unpolicedTLSAppProtocolNotes false serviceName appProto
  else []

def convertGRPCBackendRefNotes (ns : String) (clientCert : Option ClientCertConfig)
    (ref : GRPCBackendRef) : List Note :=
  match resolveCommonBackendRef resolvers ref.toBackendRef ns with
  | .dropped | .final _ => []
  | .external _ svcNamespace _ =>
      if !validateCrossNamespace resolvers svcNamespace ns ref.toBackendObjectReference then []
      else convertGRPCFiltersNotes .backend ref.filters
  | .resolved backend svcNamespace serviceName port =>
      convertGRPCFiltersNotes .backend ref.filters ++
        applyGRPCBackendTransportNotes resolvers clientCert backend svcNamespace serviceName port

variable (lib : GoLib)

def invalidTimeoutsMessage (err : String) : String :=
  "The rule's timeout could not be parsed (" ++ err ++ "); the rule is served without it. " ++
    "Use a GEP-2257 duration (e.g. \"10s\", \"500ms\") or remove the timeout."

/-- The rule still serves, without the timeouts. -/
def timeoutsNotes (timeouts : Option HTTPRouteTimeouts) : List Note :=
  match timeouts with
  | none => []
  | some timeouts =>
      match convertTimeouts lib timeouts with
      | .ok _ => []
      | .error err => [{ target := .accepted, reason := "UnsupportedValue"
                         message := invalidTimeoutsMessage err }]

def wsHandshakeRequiredHeaders : List String := ["Sec-Websocket-Accept", "Upgrade", "Connection"]

def wsHandshakeStripMessage (scope : String) (headers : List String) : String :=
  let names := "[" ++ " ".intercalate headers ++ "]"
  "A " ++ scope ++ "-scope ResponseHeaderModifier removes WebSocket handshake header(s) " ++ names ++
    " on a WebSocket backend; clients will fail to complete the upgrade. Remove " ++ names ++
    " from the filter's removeHeaders to keep WebSocket working."

def warnIfHandshakeStrip (scope : FilterScope) (filter : RouteFilter) : List Note :=
  if filter.type = .responseHeaderModifier then
    filter.responseHeaderModifier.elim [] fun modifier =>
      let offending := modifier.remove.filter
        (Matcher.canonicalHeaderKey · ∈ wsHandshakeRequiredHeaders)
      if offending = [] then []
      else [{ target := .event, message := wsHandshakeStripMessage scope.text offending
              eventType := "Warning" }]
  else []

/-- Backends that are not for WebSocket keep their filters to themselves. -/
def warnIfWSResponseFilterStripsHandshake (rule : RouteRule) : List Note :=
  if rule.backends.any (·.webSocket) then
    rule.filters.flatMap (warnIfHandshakeStrip .rule) ++
      (rule.backends.filter (·.webSocket)).flatMap fun backend =>
        backend.filters.flatMap (warnIfHandshakeStrip .backend)
  else []

def convertHTTPRouteRuleNotes (ns : String) (hostnames : List String)
    (clientCert : Option ClientCertConfig) (rule : HTTPRouteRule) : List Note :=
  convertFiltersNotes resolvers ns .rule rule.filters ++
    rule.backendRefs.flatMap (convertBackendRefNotes resolvers ns clientCert) ++
    timeoutsNotes lib rule.timeouts ++
    warnIfWSResponseFilterStripsHandshake
      (convertHTTPRouteRule lib resolvers ns hostnames clientCert rule)

def convertGRPCRouteRuleNotes (ns : String) (_hostnames : List String)
    (clientCert : Option ClientCertConfig) (rule : GRPCRouteRule) : List Note :=
  convertGRPCFiltersNotes .rule rule.filters ++
    rule.backendRefs.flatMap (convertGRPCBackendRefNotes resolvers ns clientCert)

variable {Rule : Type}

/-- The notes of all rules, stamped with their index. -/
def convertRouteFindings (certResolver : String → String → Option ClientCertConfig)
    (ruleNotes : String → List String → Option ClientCertConfig → Rule → List Note)
    (route : Route Rule) : List Finding :=
  let hostnames := route.hostnames.map Hostname.value
  let clientCert :=
    resolveFirstParentClientCertFromRefs certResolver route.id.ns route.parentRefs
  (route.rules.mapIdx fun ruleIdx rule =>
    (ruleNotes route.id.ns hostnames clientCert rule).map (·.at ruleIdx)).flatten

end Notes

section Rules

variable (resolvers : Resolvers) (lib : GoLib)

@[simp] theorem failsRule_mirrorDropDiagnostic (reason name detail : String) :
    (mirrorDropDiagnostic reason name detail).failsRule = false := rfl

@[simp] theorem failsRule_unsupportedProtocol (message : String) :
    (unsupportedProtocol message).failsRule = false := rfl

@[simp] theorem failsRule_unsupportedFilter (scope : FilterScope) (message : String) :
    (unsupportedFilter scope message).failsRule = decide (scope = .rule) := rfl

theorem any_validateMirrorBackendRefNotes (mirror : HTTPRequestMirrorFilter) (ns : String) :
    (validateMirrorBackendRefNotes resolvers mirror ns).any Note.failsRule = false := by
  simp only [validateMirrorBackendRefNotes]
  split_ifs <;> rfl

/-- A filter that fails its scope says so, and the note is about the rule where the
filter is the rule's. -/
theorem any_convertFilterNotes (ns : String) (clientCert : Option ClientCertConfig)
    (scope : FilterScope) (filter : HTTPRouteFilter) :
    (convertFilterNotes resolvers ns scope filter).any Note.failsRule =
      (decide (scope = .rule) && (convertFilter resolvers ns clientCert filter).2) := by
  rw [convertFilterNotes, convertFilter]
  cases filter.type with
  | requestMirror => cases filter.requestMirror <;> simp [any_validateMirrorBackendRefNotes]
  | _ => simp

theorem any_convertGRPCFilterNotes (scope : FilterScope) (filter : GRPCRouteFilter) :
    (convertGRPCFilterNotes scope filter).any Note.failsRule =
      (decide (scope = .rule) && (convertGRPCFilter filter).2) := by
  rw [convertGRPCFilterNotes, convertGRPCFilter]
  cases filter.type <;> simp

theorem any_convertFiltersNotes (ns : String) (clientCert : Option ClientCertConfig)
    (scope : FilterScope) (filters : List HTTPRouteFilter) :
    (convertFiltersNotes resolvers ns scope filters).any Note.failsRule =
      (decide (scope = .rule) &&
        (collectFilters (filters.map (convertFilter resolvers ns clientCert))).2) := by
  simp only [convertFiltersNotes, collectFilters, List.any_flatMap,
    any_convertFilterNotes resolvers ns clientCert]
  cases scope <;> simp [Function.comp_def]

theorem any_convertGRPCFiltersNotes (scope : FilterScope) (filters : List GRPCRouteFilter) :
    (convertGRPCFiltersNotes scope filters).any Note.failsRule =
      (decide (scope = .rule) && (collectFilters (filters.map convertGRPCFilter)).2) := by
  simp only [convertGRPCFiltersNotes, collectFilters, List.any_flatMap, any_convertGRPCFilterNotes]
  cases scope <;> simp [Function.comp_def]

theorem any_unpolicedTLSAppProtocolNotes (attached : Bool) (serviceName appProto : String) :
    (unpolicedTLSAppProtocolNotes attached serviceName appProto).any Note.failsRule = false := by
  rw [unpolicedTLSAppProtocolNotes]
  split <;> rfl

theorem any_resolveBackendProtocolNotes (ns serviceName : String) (port : ℤ) (attached : Bool) :
    (resolveBackendProtocolNotes resolvers ns serviceName port attached).any Note.failsRule =
      false := by
  simp only [resolveBackendProtocolNotes]
  repeat' split
  all_goals first | rfl | exact any_unpolicedTLSAppProtocolNotes attached serviceName _

/-- A backend takes no rule down. -/
theorem any_convertBackendRefNotes (ns : String) (clientCert : Option ClientCertConfig)
    (ref : HTTPBackendRef) :
    (convertBackendRefNotes resolvers ns clientCert ref).any Note.failsRule = false := by
  rw [convertBackendRefNotes]
  repeat' split
  all_goals
    simp [any_convertFiltersNotes resolvers ns clientCert, any_resolveBackendProtocolNotes]

theorem any_applyGRPCBackendTransportNotes (clientCert : Option ClientCertConfig)
    (backend : ProxyConfig.BackendRef) (svcNamespace serviceName : String) (port : ℤ) :
    (applyGRPCBackendTransportNotes resolvers clientCert backend svcNamespace serviceName port).any
      Note.failsRule = false := by
  simp only [applyGRPCBackendTransportNotes]
  split_ifs <;> simp [any_unpolicedTLSAppProtocolNotes]

theorem any_convertGRPCBackendRefNotes (ns : String) (clientCert : Option ClientCertConfig)
    (ref : GRPCBackendRef) :
    (convertGRPCBackendRefNotes resolvers ns clientCert ref).any Note.failsRule = false := by
  rw [convertGRPCBackendRefNotes]
  repeat' split
  all_goals simp [any_convertGRPCFiltersNotes, any_applyGRPCBackendTransportNotes]

theorem any_timeoutsNotes (timeouts : Option HTTPRouteTimeouts) :
    (timeoutsNotes lib timeouts).any Note.failsRule = false := by
  cases timeouts with
  | none => rfl
  | some timeouts =>
    rw [timeoutsNotes]
    split <;> rfl

theorem any_warnIfHandshakeStrip (scope : FilterScope) (filter : RouteFilter) :
    (warnIfHandshakeStrip scope filter).any Note.failsRule = false := by
  rw [warnIfHandshakeStrip]
  split
  · cases filter.responseHeaderModifier with
    | none => rfl
    | some modifier =>
      simp only [Option.elim_some]
      split <;> rfl
  · rfl

theorem any_warnIfWSResponseFilterStripsHandshake (rule : RouteRule) :
    (warnIfWSResponseFilterStripsHandshake rule).any Note.failsRule = false := by
  rw [warnIfWSResponseFilterStripsHandshake]
  split
  · simp [any_warnIfHandshakeStrip]
  · rfl

theorem status_ne_zero_iff (failClosed : Bool) :
    (if failClosed then statusInternalServerError else 0) ≠ 0 ↔ failClosed = true := by
  cases failClosed <;> simp [statusInternalServerError]

/-- The notes of a rule tell whether it fails closed. -/
def NotesTell {Rule : Type}
    (ruleNotes : String → List String → Option ClientCertConfig → Rule → List Note)
    (convertRule : String → List String → Option ClientCertConfig → Rule → RouteRule) : Prop :=
  ∀ ns hostnames clientCert rule,
    (convertRule ns hostnames clientCert rule).unavailableStatus ≠ 0 ↔
      (ruleNotes ns hostnames clientCert rule).any Note.failsRule = true

theorem notesTell_http :
    NotesTell (convertHTTPRouteRuleNotes resolvers lib) (convertHTTPRouteRule lib resolvers) := by
  intro ns hostnames clientCert rule
  refine (status_ne_zero_iff _).trans ?_
  simp [convertHTTPRouteRuleNotes, any_convertFiltersNotes resolvers ns clientCert,
    any_convertBackendRefNotes, any_timeoutsNotes, any_warnIfWSResponseFilterStripsHandshake,
    collectFilters]

theorem notesTell_grpc :
    NotesTell (convertGRPCRouteRuleNotes resolvers) (convertGRPCRouteRule lib resolvers) := by
  intro ns hostnames clientCert rule
  refine (status_ne_zero_iff _).trans ?_
  simp [convertGRPCRouteRuleNotes, any_convertGRPCFiltersNotes, any_convertGRPCBackendRefNotes,
    collectFilters]

end Rules

section Routes

variable {Rule : Type} {certResolver : String → String → Option ClientCertConfig}
  {kind : RouteKind}
  {ruleNotes : String → List String → Option ClientCertConfig → Rule → List Note}
  {convertRule : String → List String → Option ClientCertConfig → Rule → RouteRule}
  {route : Route Rule}

theorem mem_convertRouteFindings {f : Finding} :
    f ∈ convertRouteFindings certResolver ruleNotes route ↔
      ∃ i rule, route.rules[i]? = some rule ∧
        ∃ note ∈ ruleNotes route.id.ns (route.hostnames.map Hostname.value)
          (resolveFirstParentClientCertFromRefs certResolver route.id.ns route.parentRefs) rule,
          f = note.at i := by
  simp only [convertRouteFindings, List.mem_flatten, List.mem_mapIdx]
  constructor
  · intro h
    obtain ⟨_, ⟨i, hi, rfl⟩, hf⟩ := h
    obtain ⟨note, hnote, rfl⟩ := List.mem_map.mp hf
    exact ⟨i, route.rules[i], List.getElem?_eq_getElem hi, note, hnote, rfl⟩
  · intro h
    obtain ⟨i, rule, hrule, note, hnote, rfl⟩ := h
    obtain ⟨hi, rfl⟩ := List.getElem?_eq_some_iff.mp hrule
    exact ⟨_, ⟨i, hi, rfl⟩, List.mem_map_of_mem hnote⟩

theorem ruleIndex_lt_of_mem {f : Finding}
    (h : f ∈ convertRouteFindings certResolver ruleNotes route) :
    f.ruleIndex < route.rules.length := by
  obtain ⟨i, rule, hrule, note, -, rfl⟩ := mem_convertRouteFindings.mp h
  exact (List.getElem?_eq_some_iff.mp hrule).1

theorem exists_convertRoute_iff {i : ℕ} :
    (∃ c ∈ convertRoute certResolver kind convertRule route, c.provenance.ruleIndex = i) ↔
      i < route.rules.length := by
  constructor
  · intro h
    obtain ⟨c, hc, rfl⟩ := h
    obtain ⟨j, rule, hrule, rfl⟩ := (mem_convertRoute c).mp hc
    exact (List.getElem?_eq_some_iff.mp hrule).1
  · intro hi
    exact ⟨_, (mem_convertRoute _).mpr ⟨i, route.rules[i], List.getElem?_eq_getElem hi, rfl⟩, rfl⟩

/-- A rule fails closed exactly when a finding of its own says so. -/
theorem unavailable_iff_finding (htell : NotesTell ruleNotes convertRule) {c : ConvertedRule}
    (hc : c ∈ convertRoute certResolver kind convertRule route) :
    c.rule.unavailableStatus ≠ 0 ↔
      ∃ f ∈ convertRouteFindings certResolver ruleNotes route,
        f.target = .accepted ∧ f.wholeRule = true ∧ f.ruleIndex = c.provenance.ruleIndex := by
  obtain ⟨i, rule, hrule, rfl⟩ := (mem_convertRoute c).mp hc
  rw [htell, List.any_eq_true]
  constructor
  · intro h
    obtain ⟨note, hnote, hfails⟩ := h
    rw [Note.failsRule, Bool.and_eq_true, decide_eq_true_eq] at hfails
    exact ⟨note.at i, mem_convertRouteFindings.mpr ⟨i, rule, hrule, note, hnote, rfl⟩, hfails.1,
      hfails.2, rfl⟩
  · intro h
    obtain ⟨f, hf, htarget, hwhole, hindex⟩ := h
    obtain ⟨j, rule', hrule', note, hnote, rfl⟩ := mem_convertRouteFindings.mp hf
    have hsame : j = i := hindex
    rw [hsame, hrule, Option.some.injEq] at hrule'
    subst hrule'
    exact ⟨note, hnote, by simp [Note.failsRule, show note.target = .accepted from htarget,
      show note.wholeRule = true from hwhole]⟩

end Routes

section Status

theorem mem_distinct {α : Type} [DecidableEq α] {values : List α} {a : α} :
    a ∈ distinct values ↔ a ∈ values := mem_dedupBy fun _ _ _ _ h => h

/-- Distinct numbers below a bound are as many as the bound only when they are all
of them. -/
theorem le_length_distinct_iff {n : ℕ} {values : List ℕ} (hlt : ∀ i ∈ values, i < n) :
    n ≤ (distinct values).length ↔ ∀ i < n, i ∈ values := by
  have hcard : (distinct values).toFinset.card = (distinct values).length :=
    List.toFinset_card_of_nodup nodup_dedupBy
  have hsubset : (distinct values).toFinset ⊆ Finset.range n := by
    intro i hi
    exact Finset.mem_range.mpr (hlt i (mem_distinct.mp (List.mem_toFinset.mp hi)))
  constructor
  · intro hle i hi
    rw [← hcard, ← Finset.card_range n] at hle
    have hmem := Finset.mem_range.mpr hi
    rw [← Finset.eq_of_subset_of_card_le hsubset hle] at hmem
    exact mem_distinct.mp (List.mem_toFinset.mp hmem)
  · intro hall
    rw [← hcard, ← Finset.card_range n]
    apply Finset.card_le_card
    intro i hi
    exact List.mem_toFinset.mpr (mem_distinct.mpr (hall i (Finset.mem_range.mp hi)))

variable {diagnostics : List RouteDiagnostic} {ruleCount : ℕ} (generation : ℕ) (now : ℤ)

/-- Some diagnostic takes this rule down. -/
def TakenDown (diagnostics : List RouteDiagnostic) (i : ℕ) : Prop :=
  ∃ d ∈ diagnostics, d.target = .accepted ∧ d.wholeRule = true ∧ d.ruleIndex = i

theorem mem_wholeRuleIdx {i : ℕ} :
    i ∈ ((diagnostics.filter (·.target = .accepted)).filter (·.wholeRule)).map (·.ruleIndex) ↔
      TakenDown diagnostics i := by
  simp only [TakenDown, List.mem_map, List.mem_filter, decide_eq_true_eq, and_assoc]

theorem override_iff (hindex : ∀ d ∈ diagnostics, d.target = .accepted → d.ruleIndex < ruleCount) :
    (diagnosticConditions diagnostics ruleCount generation now).1.isSome = true ↔
      0 < ruleCount ∧ ∀ i < ruleCount, TakenDown diagnostics i := by
  have hlt : ∀ i ∈ ((diagnostics.filter (·.target = .accepted)).filter (·.wholeRule)).map
      (·.ruleIndex), i < ruleCount := by
    intro i hi
    obtain ⟨d, hd, htarget, -, rfl⟩ := mem_wholeRuleIdx.mp hi
    exact hindex d hd htarget
  have hall := le_length_distinct_iff hlt
  simp only [mem_wholeRuleIdx] at hall
  simp only [diagnosticConditions]
  split
  · rename_i hnone
    constructor
    · intro h
      cases h
    · intro h
      obtain ⟨d, hd, htarget, -, -⟩ := h.2 0 h.1
      have hmem : d ∈ diagnostics.filter (·.target = .accepted) :=
        List.mem_filter.mpr ⟨hd, decide_eq_true htarget⟩
      rw [hnone] at hmem
      cases hmem
  · split
    · rename_i hcount
      exact iff_of_true rfl ⟨hcount.1, hall.mp hcount.2⟩
    · rename_i hcount
      refine iff_of_false Bool.false_ne_true ?_
      intro h
      exact hcount ⟨h.1, hall.mpr h.2⟩

theorem reason_of_override {override : AcceptedConditionOverride}
    (h : (diagnosticConditions diagnostics ruleCount generation now).1 = some override) :
    override.reason = "UnsupportedValue" := by
  simp only [diagnosticConditions] at h
  split_ifs at h
  cases h
  rfl

theorem partiallyInvalid_iff
    (hnone : (diagnosticConditions diagnostics ruleCount generation now).1 = none) :
    (diagnosticConditions diagnostics ruleCount generation now).2.isSome = true ↔
      ∃ d ∈ diagnostics, d.target = .accepted := by
  have hempty : diagnostics.filter (·.target = .accepted) = [] ↔
      ¬ ∃ d ∈ diagnostics, d.target = .accepted := by
    simp
  simp only [diagnosticConditions] at hnone ⊢
  split
  · rename_i hnil
    exact iff_of_false Bool.false_ne_true (hempty.mp hnil)
  · rename_i hsome
    rw [if_neg hsome] at hnone
    split
    · rename_i hcount
      rw [if_pos hcount] at hnone
      cases hnone
    · exact iff_of_true rfl (by_contra fun h => hsome (hempty.mpr h))

end Status

section Sync

variable (s : ProxySyncer) (sorts : SortFunc)

def httpFindings (route : HTTPRoute) : List Finding :=
  convertRouteFindings s.gatewayCertResolver
    (convertHTTPRouteRuleNotes (s.resolvers .HTTPRoute) s.lib) route

def grpcFindings (route : GRPCRoute) : List Finding :=
  convertRouteFindings s.gatewayCertResolver
    (convertGRPCRouteRuleNotes (s.resolvers .GRPCRoute)) route

/-- What converting a route reports. -/
def anyFindings : AnyRoute → List Finding
  | .http route => httpFindings s (prepareHTTPRoute s route)
  | .grpc route => grpcFindings s (prepareGRPCRoute s route)

def ruleCount : AnyRoute → ℕ
  | .http route => route.rules.length
  | .grpc route => route.rules.length

/-- What a sync leaves in its diagnostics. -/
def syncDiagnostics (run : SyncRun) : List RouteDiagnostic :=
  erase (producedBy s sorts (httpFindings s) (grpcFindings s) run)

theorem length_rules_prepareHTTPRoute (route : HTTPRoute) :
    (prepareHTTPRoute s route).rules.length = route.rules.length := by
  obtain ⟨fill, -, heq⟩ := prepareHTTPRoute_spec s route
  rw [heq]
  exact List.length_map _

variable {route : AnyRoute} {i : ℕ} {p : Produced} {d : RouteDiagnostic} {run : SyncRun}

theorem unavailable_iff_anyFindings {c : ConvertedRule}
    (hc : c ∈ convertAnyRoute s s.gatewayCertResolver route) :
    c.rule.unavailableStatus ≠ 0 ↔
      ∃ f ∈ anyFindings s route,
        f.target = .accepted ∧ f.wholeRule = true ∧ f.ruleIndex = c.provenance.ruleIndex := by
  cases route with
  | http route => exact unavailable_iff_finding (notesTell_http (s.resolvers .HTTPRoute) s.lib) hc
  | grpc route => exact unavailable_iff_finding (notesTell_grpc (s.resolvers .GRPCRoute) s.lib) hc

theorem ruleIndex_lt_ruleCount {f : Finding} (h : f ∈ anyFindings s route) :
    f.ruleIndex < ruleCount route := by
  cases route with
  | http route =>
    have hlt := ruleIndex_lt_of_mem h
    rw [length_rules_prepareHTTPRoute] at hlt
    exact hlt
  | grpc route =>
    have hlt := ruleIndex_lt_of_mem h
    rw [prepareGRPCRoute_spec] at hlt
    exact hlt

/-- Every rule is converted, under its index. -/
theorem exists_converted_iff :
    (∃ c ∈ convertAnyRoute s s.gatewayCertResolver route, c.provenance.ruleIndex = i) ↔
      i < ruleCount route := by
  cases route with
  | http route =>
    refine exists_convertRoute_iff.trans ?_
    rw [length_rules_prepareHTTPRoute]
    rfl
  | grpc route =>
    refine exists_convertRoute_iff.trans ?_
    rw [prepareGRPCRoute_spec]
    rfl

theorem mem_converterDiagnostics {Rule : Type} {kind : RouteKind}
    {findings : Route Rule → List Finding} {routes : List (Route Rule)} :
    p ∈ converterDiagnostics kind findings routes ↔
      ∃ route ∈ routes, ∃ f ∈ findings route, p = ⟨kind, f.stamp route.id⟩ := by
  simp [converterDiagnostics, sortRoutesByPrecedence,
    eq_comm]

/-- Of the parts of a configuration only the converters report on acceptance. -/
theorem accepted_mem_configDiagnostics {run : PartitionRun} (htarget : d.target = .accepted) :
    (∃ p ∈ configDiagnostics s sorts (httpFindings s) (grpcFindings s) run, p.diagnostic = d) ↔
      ∃ route ∈ run.pushed, ∃ f ∈ anyFindings s route, d = f.stamp route.id := by
  constructor
  · intro h
    obtain ⟨p, hp, rfl⟩ := h
    rw [configDiagnostics, List.mem_append, List.mem_append] at hp
    rcases hp with (hp | hp) | hp
    · obtain ⟨prepared, hprepared, f, hf, rfl⟩ := mem_converterDiagnostics.mp hp
      rw [preparedHTTPRoutes_eq] at hprepared
      obtain ⟨route, hroute, rfl⟩ := List.mem_map.mp hprepared
      refine ⟨.http route, hroute, f, hf, ?_⟩
      exact congrArg f.stamp (prepareHTTPRoute_frame s route).1
    · obtain ⟨prepared, hprepared, f, hf, rfl⟩ := mem_converterDiagnostics.mp hp
      obtain ⟨route, hroute, rfl⟩ := List.mem_map.mp hprepared
      refine ⟨.grpc route, hroute, f, hf, ?_⟩
      exact congrArg f.stamp (prepareGRPCRoute_frame s route).1
    · obtain ⟨shadowing, -, rfl⟩ := List.mem_map.mp hp
      cases htarget
  · intro h
    obtain ⟨route, hroute, f, hf, rfl⟩ := h
    cases route with
    | http route =>
      refine ⟨⟨.HTTPRoute, f.stamp (prepareHTTPRoute s route).id⟩, ?_, ?_⟩
      · refine List.mem_append_left _ (List.mem_append_left _ ?_)
        rw [preparedHTTPRoutes_eq]
        exact mem_converterDiagnostics.mpr ⟨_, List.mem_map_of_mem hroute, f, hf, rfl⟩
      · exact congrArg f.stamp (prepareHTTPRoute_frame s route).1
    | grpc route =>
      refine ⟨⟨.GRPCRoute, f.stamp (prepareGRPCRoute s route).id⟩, ?_, ?_⟩
      · refine List.mem_append_left _ (List.mem_append_right _ ?_)
        exact mem_converterDiagnostics.mpr ⟨_, List.mem_map_of_mem hroute, f, hf, rfl⟩
      · exact congrArg f.stamp (prepareGRPCRoute_frame s route).1

theorem target_of_mem_forRoutes {routes : RouteSet} {target : DiagnosticTarget}
    {reason message : String} (h : p ∈ forRoutes routes target reason message) :
    p.diagnostic.target = target := by
  simp only [forRoutes, partitionRouteDiagnostics, List.mem_append, List.mem_map] at h
  rcases h with ⟨_, ⟨_, _, rfl⟩, rfl⟩ | ⟨_, ⟨_, _, rfl⟩, rfl⟩ <;> rfl

theorem accepted_mem_syncDiagnostics (htarget : d.target = .accepted) :
    d ∈ syncDiagnostics s sorts run ↔
      ∃ partitionRun ∈ run.partitions, ∃ route ∈ partitionRun.pushed,
        ∃ f ∈ anyFindings s route, d = f.stamp route.id := by
  constructor
  · intro h
    obtain ⟨p, hp, rfl⟩ := List.mem_map.mp h
    rcases List.mem_append.mp hp with hp | hp
    · obtain ⟨partitionRun, hrun, hp⟩ := List.mem_flatMap.mp hp
      refine ⟨partitionRun, hrun, ?_⟩
      rcases List.mem_append.mp hp with hp | hp
      · exact (accepted_mem_configDiagnostics s sorts htarget).mp ⟨p, hp, rfl⟩
      · split at hp
        · cases htarget.symm.trans (target_of_mem_forRoutes hp)
        · cases hp
    · obtain ⟨collision, -, hp⟩ := List.mem_flatMap.mp hp
      cases htarget.symm.trans (target_of_mem_forRoutes hp)
  · intro h
    obtain ⟨partitionRun, hrun, hroute⟩ := h
    obtain ⟨p, hp, hdiagnostic⟩ := (accepted_mem_configDiagnostics s sorts htarget).mpr hroute
    refine List.mem_map.mpr ⟨p, ?_, hdiagnostic⟩
    exact List.mem_append_left _
      (List.mem_flatMap.mpr ⟨partitionRun, hrun, List.mem_append_left _ hp⟩)

/-- The route is converted in this sync, and whatever is converted under its name
is this route. -/
structure ConvertedAs (run : SyncRun) (route : AnyRoute) : Prop where
  pushed : ∃ partitionRun ∈ run.partitions, route ∈ partitionRun.pushed
  only : ∀ partitionRun ∈ run.partitions, ∀ route' ∈ partitionRun.pushed,
    route'.id = route.id → route' = route

/-- The acceptance diagnostics a route is handed are the findings about it. -/
theorem accepted_mem_filterDiagnostics (hroute : ConvertedAs run route)
    (htarget : d.target = .accepted) :
    d ∈ filterDiagnostics (syncDiagnostics s sorts run) route.id.ns route.id.name ↔
      ∃ f ∈ anyFindings s route, d = f.stamp route.id := by
  rw [filterDiagnostics, List.mem_filter, decide_eq_true_eq,
    accepted_mem_syncDiagnostics s sorts htarget]
  constructor
  · intro h
    obtain ⟨⟨partitionRun, hrun, route', hroute', f, hf, rfl⟩, hns, hname⟩ := h
    have hsame : route' = route :=
      hroute.only partitionRun hrun route' hroute' (NamespacedName.ext hns hname)
    subst hsame
    exact ⟨f, hf, rfl⟩
  · intro h
    obtain ⟨f, hf, rfl⟩ := h
    obtain ⟨partitionRun, hrun, hpushed⟩ := hroute.pushed
    exact ⟨⟨partitionRun, hrun, route, hpushed, f, hf, rfl⟩, rfl, rfl⟩

theorem exists_accepted_iff (hroute : ConvertedAs run route) (Q : RouteDiagnostic → Prop) :
    (∃ d ∈ filterDiagnostics (syncDiagnostics s sorts run) route.id.ns route.id.name,
      d.target = .accepted ∧ Q d) ↔
      ∃ f ∈ anyFindings s route, f.target = .accepted ∧ Q (f.stamp route.id) := by
  constructor
  · intro h
    obtain ⟨d, hd, htarget, hQ⟩ := h
    obtain ⟨f, hf, rfl⟩ := (accepted_mem_filterDiagnostics s sorts hroute htarget).mp hd
    exact ⟨f, hf, htarget, hQ⟩
  · intro h
    obtain ⟨f, hf, htarget, hQ⟩ := h
    exact ⟨f.stamp route.id,
      (accepted_mem_filterDiagnostics s sorts hroute htarget).mpr ⟨f, hf, rfl⟩, htarget, hQ⟩

theorem takenDown_iff (hroute : ConvertedAs run route) :
    TakenDown (filterDiagnostics (syncDiagnostics s sorts run) route.id.ns route.id.name) i ↔
      ∃ f ∈ anyFindings s route, f.target = .accepted ∧ f.wholeRule = true ∧ f.ruleIndex = i :=
  exists_accepted_iff s sorts hroute fun d => d.wholeRule = true ∧ d.ruleIndex = i

/-- Every index taken down, every rule failing closed. -/
theorem forall_takenDown_iff (hroute : ConvertedAs run route) :
    (∀ i < ruleCount route,
      TakenDown (filterDiagnostics (syncDiagnostics s sorts run) route.id.ns route.id.name) i) ↔
      ∀ c ∈ convertAnyRoute s s.gatewayCertResolver route, c.rule.unavailableStatus ≠ 0 := by
  constructor
  · intro h c hc
    have hlt : c.provenance.ruleIndex < ruleCount route :=
      (exists_converted_iff s).mp ⟨c, hc, rfl⟩
    exact (unavailable_iff_anyFindings s hc).mpr ((takenDown_iff s sorts hroute).mp (h _ hlt))
  · intro h i hi
    obtain ⟨c, hc, rfl⟩ := (exists_converted_iff s).mpr hi
    exact (takenDown_iff s sorts hroute).mpr ((unavailable_iff_anyFindings s hc).mp (h c hc))

theorem fail_closed_status_agrees {run : SyncRun} {route : AnyRoute}
    (hroute : ConvertedAs run route) (generation : ℕ) (now : ℤ) :
    let conditions := diagnosticConditions
      (filterDiagnostics (syncDiagnostics s sorts run) route.id.ns route.id.name)
      (ruleCount route) generation now
    let rules := convertAnyRoute s s.gatewayCertResolver route
    (∀ c ∈ rules, c.rule.unavailableStatus ≠ 0 ↔
      ∃ f ∈ anyFindings s route,
        f.target = .accepted ∧ f.wholeRule = true ∧ f.ruleIndex = c.provenance.ruleIndex) ∧
    (conditions.1.isSome = true ↔
      0 < ruleCount route ∧ ∀ c ∈ rules, c.rule.unavailableStatus ≠ 0) ∧
    (∀ override ∈ conditions.1, override.reason = "UnsupportedValue") ∧
    (conditions.1 = none →
      (conditions.2.isSome = true ↔ ∃ f ∈ anyFindings s route, f.target = .accepted)) ∧
    ∀ condition ∈ conditions.2, condition.type = "PartiallyInvalid" := by
  have hindex : ∀ d ∈ filterDiagnostics (syncDiagnostics s sorts run) route.id.ns route.id.name,
      d.target = .accepted → d.ruleIndex < ruleCount route := by
    intro d hd htarget
    obtain ⟨f, hf, rfl⟩ := (accepted_mem_filterDiagnostics s sorts hroute htarget).mp hd
    exact ruleIndex_lt_ruleCount s hf
  refine ⟨fun c hc => unavailable_iff_anyFindings s hc, ?_, ?_, ?_, ?_⟩
  · rw [override_iff generation now hindex, forall_takenDown_iff s sorts hroute]
  · intro override h
    exact reason_of_override generation now h
  · intro hnone
    rw [partiallyInvalid_iff generation now hnone]
    simpa using exists_accepted_iff s sorts hroute fun _ => True
  · intro condition h
    exact (of_diagnosticConditions h).1

/-- One rule with a filter that is not served, one with a timeout that is not a
duration. -/
def halfServed : HTTPRoute :=
  ⟨.of "shop" "web", 10, [], [],
    [{ filters := [{ type := .extensionRef }] }, { timeouts := some { request := some "soon" } }]⟩

def halfServedRun : SyncRun where
  partitions :=
    [⟨"shared", .single (.http halfServed), .single (.http halfServed), [], [], 1, false⟩]
  collisions := []

theorem convertedAs_halfServed : ConvertedAs halfServedRun (.http halfServed) where
  pushed := by
    refine ⟨_, List.mem_singleton_self _, ?_⟩
    show AnyRoute.http halfServed ∈ RouteSet.single (.http halfServed)
    exact RouteSet.mem_single.mpr rfl
  only partitionRun hrun route hroute _ := by
    rw [List.mem_singleton.mp hrun] at hroute
    exact RouteSet.mem_single.mp hroute

theorem halfServed_partiallyInvalid :
    (convertAnyRoute bareSyncer bareSyncer.gatewayCertResolver (.http halfServed)).map
      (·.rule.unavailableStatus) = [500, 0] ∧
    (diagnosticConditions (filterDiagnostics (syncDiagnostics bareSyncer .stable halfServedRun)
      "shop" "web") 2 1 0).2.isSome = true := by
  have hstatus : (convertAnyRoute bareSyncer bareSyncer.gatewayCertResolver (.http halfServed)).map
      (·.rule.unavailableStatus) = [500, 0] := by
    decide +kernel
  obtain ⟨-, hoverride, -, hpartly, -⟩ :=
    fail_closed_status_agrees bareSyncer .stable convertedAs_halfServed 1 0
  refine ⟨hstatus, (hpartly ?_).mpr ?_⟩
  · rw [← Option.not_isSome_iff_eq_none, hoverride]
    intro h
    have hzero : (0 : ℤ) ∈ (convertAnyRoute bareSyncer bareSyncer.gatewayCertResolver
        (.http halfServed)).map (·.rule.unavailableStatus) := by
      rw [hstatus]
      simp
    obtain ⟨c, hc, hc0⟩ := List.mem_map.mp hzero
    exact h.2 c hc hc0
  · have hany : (anyFindings bareSyncer (.http halfServed)).any (·.target = .accepted) = true := by
      decide +kernel
    obtain ⟨f, hf, htarget⟩ := List.any_eq_true.mp hany
    exact ⟨f, hf, of_decide_eq_true htarget⟩

end Sync

end TunnelGateway.ConverterFindings
