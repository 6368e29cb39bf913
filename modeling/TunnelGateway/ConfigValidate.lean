import TunnelGateway.Router

/-!
The checks a replica makes on a configuration before it compiles it, and when
the two succeed. Validation looks at the shape of every field; it does not
compile the regular expressions, so a configuration that passes it is compiled
exactly when all of its patterns are.
-/
namespace TunnelGateway.ProxyConfig

open GoText Fallible

section Validation

def isKnownBackendProtocol : BackendProtocol → Bool
  | .http | .h2c => true
  | .other _ => false

/-- `%q` of a protocol. -/
def BackendProtocol.quoted : BackendProtocol → String
  | .http => "".quote
  | .h2c => "h2c".quote
  | .other value => value.quote

/-- The four filters whose payload only has to be there. -/
def requirePayload {α : Type} (field : String) (payload : Option α) : Except String Unit :=
  if payload.isNone then .error (field ++ " config is required") else .ok ()

def validateMirrorFilter (mirror : Option MirrorConfig) : Except String Unit :=
  match mirror with
  | none => .error "requestMirror config is required"
  | some m =>
      match m.percent with
      | none => .ok ()
      | some pct =>
          if pct < 0 ∨ 100 < pct then
            .error ("requestMirror percent must be in [0,100], got " ++ toString pct)
          else .ok ()

def validateCORSFilter (cors : Option CORSConfig) : Except String Unit :=
  match cors with
  | none => .error "cors config is required"
  | some c =>
      if c.maxAge < 0 then
        .error ("cors maxAge must be non-negative, got " ++ toString c.maxAge)
      else .ok ()

def RouteFilter.validate (f : RouteFilter) : Except String Unit :=
  match f.type with
  | .requestHeaderModifier => requirePayload "requestHeaderModifier" f.requestHeaderModifier
  | .responseHeaderModifier => requirePayload "responseHeaderModifier" f.responseHeaderModifier
  | .requestRedirect => requirePayload "requestRedirect" f.requestRedirect
  | .urlRewrite => requirePayload "urlRewrite" f.urlRewrite
  | .requestMirror => validateMirrorFilter f.requestMirror
  | .cors => validateCORSFilter f.cors
  | .other value => .error (value.quote ++ ": unknown filter type")

def PathMatch.validate (pm : PathMatch) : Except String Unit :=
  match pm.type with
  | .other value => .error (value.quote ++ ": unknown path match type")
  | _ => if pm.value = "" then .error "path: value is required" else .ok ()

/-- What header and query parameter matches share: a known type and a name. -/
def validateValueMatch (label unknown : String) (type : ValueMatchType) (name : String) :
    Except String Unit :=
  match type with
  | .other value => .error (label ++ ": " ++ value.quote ++ ": " ++ unknown)
  | _ => if name = "" then .error (label ++ ": name is required") else .ok ()

def validateHeaderMatch (idx : ℕ) (header : HeaderMatch) : Except String Unit :=
  validateValueMatch (indexed "header" idx) "unknown header match type" header.type header.name

def validateQueryParamMatch (idx : ℕ) (query : QueryParamMatch) : Except String Unit :=
  validateValueMatch (indexed "queryParam" idx) "unknown query param match type" query.type
    query.name

def validatePath (path : Option PathMatch) : Except String Unit :=
  match path with
  | none => .ok ()
  | some pm => pm.validate

def RouteMatch.validate (m : RouteMatch) : Except String Unit := do
  validatePath m.path
  checkEach validateHeaderMatch m.headers
  checkEach validateQueryParamMatch m.queryParams

/-- Without backends a rule is valid; the proxy answers 500 for it. -/
def BackendRef.validate (idx : ℕ) (backend : BackendRef) : Except String Unit :=
  if backend.url = "" then .error (indexed "backend" idx ++ ": url is required")
  else if backend.weight < 0 then
    .error (indexed "backend" idx ++ ": weight must be non-negative")
  else if !isKnownBackendProtocol backend.protocol then
    .error (indexed "backend" idx ++ ": unknown protocol " ++ backend.protocol.quoted)
  else
    checkEach (fun filterIdx filter =>
      wrap (indexed "backend" idx ++ "." ++ indexed "filter" filterIdx) filter.validate)
      backend.filters

def RouteRule.validate (rule : RouteRule) : Except String Unit := do
  checkEach BackendRef.validate rule.backends
  checkEach (fun idx m => wrap (indexed "match" idx) m.validate) rule.routeMatches
  checkEach (fun idx f => wrap (indexed "filter" idx) f.validate) rule.filters

def Config.validate (cfg : Config) : Except String Unit :=
  if cfg.version < 0 then .error "version must be non-negative"
  else checkEach (fun idx rule => wrap (indexed "rule" idx) rule.validate) cfg.rules

end Validation

section Validity

def RouteFilter.Valid (f : RouteFilter) : Prop :=
  match f.type with
  | .requestHeaderModifier => f.requestHeaderModifier.isSome
  | .responseHeaderModifier => f.responseHeaderModifier.isSome
  | .requestRedirect => f.requestRedirect.isSome
  | .urlRewrite => f.urlRewrite.isSome
  | .requestMirror => ∃ m, f.requestMirror = some m ∧ ∀ pct ∈ m.percent, 0 ≤ pct ∧ pct ≤ 100
  | .cors => ∃ c, f.cors = some c ∧ 0 ≤ c.maxAge
  | .other _ => False

def PathMatchType.Known (type : PathMatchType) : Prop := ∀ value, type ≠ .other value

def ValueMatchType.Known (type : ValueMatchType) : Prop := ∀ value, type ≠ .other value

structure RouteMatch.Valid (m : RouteMatch) : Prop where
  path : ∀ pm ∈ m.path, pm.type.Known ∧ pm.value ≠ ""
  headers : ∀ header ∈ m.headers, header.type.Known ∧ header.name ≠ ""
  queryParams : ∀ query ∈ m.queryParams, query.type.Known ∧ query.name ≠ ""

structure BackendRef.Valid (backend : BackendRef) : Prop where
  url : backend.url ≠ ""
  weight : 0 ≤ backend.weight
  protocol : isKnownBackendProtocol backend.protocol = true
  filters : ∀ f ∈ backend.filters, f.Valid

structure RouteRule.Valid (rule : RouteRule) : Prop where
  backends : ∀ backend ∈ rule.backends, backend.Valid
  routeMatches : ∀ m ∈ rule.routeMatches, m.Valid
  filters : ∀ f ∈ rule.filters, f.Valid

structure Config.Valid (cfg : Config) : Prop where
  version : 0 ≤ cfg.version
  rules : ∀ rule ∈ cfg.rules, rule.Valid

theorem requirePayload_eq_ok {α : Type} (field : String) (payload : Option α) :
    requirePayload field payload = .ok () ↔ payload.isSome := by
  cases payload <;> simp [requirePayload]

theorem validateMirrorFilter_eq_ok (mirror : Option MirrorConfig) :
    validateMirrorFilter mirror = .ok () ↔
      ∃ m, mirror = some m ∧ ∀ pct ∈ m.percent, 0 ≤ pct ∧ pct ≤ 100 := by
  cases mirror with
  | none => simp [validateMirrorFilter]
  | some m =>
    cases hpct : m.percent with
    | none => simp [validateMirrorFilter, hpct]
    | some pct =>
      simp only [validateMirrorFilter, hpct, Option.some.injEq, exists_eq_left',
        Option.mem_def, forall_eq']
      split
      · simp only [reduceCtorEq, false_iff]
        omega
      · simp only [true_iff]
        omega

theorem validateCORSFilter_eq_ok (cors : Option CORSConfig) :
    validateCORSFilter cors = .ok () ↔ ∃ c, cors = some c ∧ 0 ≤ c.maxAge := by
  cases cors with
  | none => simp [validateCORSFilter]
  | some c =>
    simp only [validateCORSFilter, Option.some.injEq, exists_eq_left']
    split
    · simp only [reduceCtorEq, false_iff]
      omega
    · simp only [true_iff]
      omega

theorem RouteFilter.validate_eq_ok (f : RouteFilter) : f.validate = .ok () ↔ f.Valid := by
  unfold RouteFilter.validate RouteFilter.Valid
  cases f.type with
  | requestHeaderModifier => exact requirePayload_eq_ok _ _
  | responseHeaderModifier => exact requirePayload_eq_ok _ _
  | requestRedirect => exact requirePayload_eq_ok _ _
  | urlRewrite => exact requirePayload_eq_ok _ _
  | requestMirror => exact validateMirrorFilter_eq_ok _
  | cors => exact validateCORSFilter_eq_ok _
  | other value => simp

theorem PathMatch.validate_eq_ok (pm : PathMatch) :
    pm.validate = .ok () ↔ pm.type.Known ∧ pm.value ≠ "" := by
  unfold PathMatch.validate PathMatchType.Known
  cases pm.type <;> simp

theorem validateValueMatch_eq_ok (label unknown : String) (type : ValueMatchType)
    (name : String) :
    validateValueMatch label unknown type name = .ok () ↔ type.Known ∧ name ≠ "" := by
  unfold validateValueMatch ValueMatchType.Known
  cases type <;> simp

theorem RouteMatch.validate_eq_ok (m : RouteMatch) : m.validate = .ok () ↔ m.Valid := by
  have hpath : validatePath m.path = .ok () ↔
      ∀ pm ∈ m.path, pm.type.Known ∧ pm.value ≠ "" := by
    cases m.path with
    | none => simp [validatePath]
    | some pm => simp [validatePath, PathMatch.validate_eq_ok]
  have hheaders := checkEach_eq_ok validateHeaderMatch
   
    (fun _ _ => validateValueMatch_eq_ok _ _ _ _) m.headers
  have hqueries := checkEach_eq_ok validateQueryParamMatch
   
    (fun _ _ => validateValueMatch_eq_ok _ _ _ _) m.queryParams
  unfold RouteMatch.validate
  rw [seq_eq_ok, seq_eq_ok, hpath, hheaders, hqueries]
  exact ⟨fun h => ⟨h.1, h.2.1, h.2.2⟩, fun h => ⟨h.path, h.headers, h.queryParams⟩⟩

theorem BackendRef.validate_eq_ok (idx : ℕ) (backend : BackendRef) :
    BackendRef.validate idx backend = .ok () ↔ backend.Valid := by
  have hfilters := checkEach_eq_ok (fun filterIdx filter =>
      wrap (indexed "backend" idx ++ "." ++ indexed "filter" filterIdx) filter.validate)
   
    (fun _ f => (wrap_eq_ok _ _ _).trans f.validate_eq_ok) backend.filters
  unfold BackendRef.validate
  split_ifs with hurl hweight hprotocol
  · exact iff_of_false (fun h => nomatch h) (fun h => h.url hurl)
  · exact iff_of_false (fun h => nomatch h) (fun h => absurd h.weight (by omega))
  · exact iff_of_false (fun h => nomatch h) (fun h => by simp [h.protocol] at hprotocol)
  · rw [hfilters]
    refine ⟨fun h => ⟨hurl, by omega, by simpa using hprotocol, h⟩, fun h => h.filters⟩

theorem RouteRule.validate_eq_ok (rule : RouteRule) : rule.validate = .ok () ↔ rule.Valid := by
  have hbackends := checkEach_eq_ok BackendRef.validate BackendRef.validate_eq_ok rule.backends
  have hmatches := checkEach_eq_ok (fun idx m => wrap (indexed "match" idx) m.validate)
    (fun _ m => (wrap_eq_ok _ _ _).trans m.validate_eq_ok)
    rule.routeMatches
  have hfilters := checkEach_eq_ok (fun idx f => wrap (indexed "filter" idx) f.validate)
    (fun _ f => (wrap_eq_ok _ _ _).trans f.validate_eq_ok)
    rule.filters
  unfold RouteRule.validate
  rw [seq_eq_ok, seq_eq_ok, hbackends, hmatches, hfilters]
  exact ⟨fun h => ⟨h.1, h.2.1, h.2.2⟩, fun h => ⟨h.backends, h.routeMatches, h.filters⟩⟩

theorem Config.validate_eq_ok (cfg : Config) : cfg.validate = .ok () ↔ cfg.Valid := by
  have hrules := checkEach_eq_ok (fun idx rule => wrap (indexed "rule" idx) rule.validate)
    (fun _ rule => (wrap_eq_ok _ _ _).trans rule.validate_eq_ok) cfg.rules
  unfold Config.validate
  split
  · exact iff_of_false (fun h => nomatch h) (fun h => absurd h.version (by omega))
  · rw [hrules]
    exact ⟨fun h => ⟨by omega, h⟩, fun h => h.rules⟩

end Validity

section Compilation

open Matcher Router

variable (lib : GoLib)

def Compiles (pattern : String) : Prop := ∃ re, lib.regexpCompile pattern = .ok re

def PathMatch.patterns (pm : PathMatch) : List String :=
  if pm.type = .regularExpression then [pm.value] else []

def valuePatterns (type : ValueMatchType) (value : String) : List String :=
  if type = .regularExpression then [value] else []

/-- The regular expressions a match is compiled from. -/
def RouteMatch.patterns (m : RouteMatch) : List String :=
  m.path.toList.flatMap PathMatch.patterns ++
    m.headers.flatMap (fun header => valuePatterns header.type header.value) ++
    m.queryParams.flatMap (fun query => valuePatterns query.type query.value)

def RouteRule.patterns (rule : RouteRule) : List String :=
  rule.routeMatches.flatMap RouteMatch.patterns

def Config.patterns (cfg : Config) : List String := cfg.rules.flatMap RouteRule.patterns

theorem map_isOk {α β : Type} (f : α → β) (result : Except String α) :
    (∃ y, result.map f = .ok y) ↔ ∃ x, result = .ok x := by
  cases result <;> simp [Except.map]

theorem compilePathMatcher_isOk {pm : PathMatch} (hknown : pm.type.Known) :
    (∃ rm, compilePathMatcher lib pm = .ok rm) ↔ ∀ p ∈ pm.patterns, Compiles lib p := by
  unfold compilePathMatcher PathMatch.patterns
  cases htype : pm.type with
  | exact => simp
  | pathPrefix => simp
  | regularExpression => simpa [Compiles] using map_isOk _ _
  | other value => exact absurd htype (hknown value)

theorem compileHeaderMatcher_isOk {header : HeaderMatch} (hknown : header.type.Known) :
    (∃ rm, compileHeaderMatcher lib header = .ok rm) ↔
      ∀ p ∈ valuePatterns header.type header.value, Compiles lib p := by
  unfold compileHeaderMatcher valuePatterns
  cases htype : header.type with
  | exact => simp
  | regularExpression => simpa [Compiles] using map_isOk _ _
  | other value => exact absurd htype (hknown value)

theorem compileQueryMatcher_isOk {query : QueryParamMatch} (hknown : query.type.Known) :
    (∃ rm, compileQueryMatcher lib query = .ok rm) ↔
      ∀ p ∈ valuePatterns query.type query.value, Compiles lib p := by
  unfold compileQueryMatcher valuePatterns
  cases htype : query.type with
  | exact => simp
  | regularExpression => simpa [Compiles] using map_isOk _ _
  | other value => exact absurd htype (hknown value)

theorem compilePath_isOk {path : Option PathMatch} (hknown : ∀ pm ∈ path, pm.type.Known) :
    (∃ rms, compilePath lib path = .ok rms) ↔
      ∀ p ∈ path.toList.flatMap PathMatch.patterns, Compiles lib p := by
  cases path with
  | none => simp [compilePath]
  | some pm =>
    have hpm := compilePathMatcher_isOk lib (hknown pm rfl)
    simp only [compilePath, map_eq_ok, Option.toList_some, List.flatMap_singleton, ← hpm]
    constructor
    · intro h
      obtain ⟨_, rm, hrm, -⟩ := h
      exact ⟨rm, hrm⟩
    · intro h
      obtain ⟨rm, hrm⟩ := h
      exact ⟨[rm], rm, hrm, rfl⟩

/-- A loop over well-typed elements compiles when all of their patterns do. -/
theorem mapM_isOk_iff_patterns {α β : Type} {compile : α → Except String β}
    {patterns : α → List String} {xs : List α}
    (h : ∀ x ∈ xs, (∃ y, compile x = .ok y) ↔ ∀ p ∈ patterns x, Compiles lib p) :
    (∃ ys, xs.mapM compile = .ok ys) ↔ ∀ p ∈ xs.flatMap patterns, Compiles lib p := by
  rw [mapM_isOk_iff]
  constructor
  · intro hall p hp
    obtain ⟨x, hx, hpx⟩ := List.mem_flatMap.mp hp
    exact (h x hx).mp (hall x hx) p hpx
  · intro hall x hx
    exact (h x hx).mpr fun p hp => hall p (List.mem_flatMap.mpr ⟨x, hx, hp⟩)

theorem forEach_isOk_iff_patterns {α β : Type} {label : ℕ → String}
    {compile : ℕ → α → Except String β} {patterns : α → List String} {xs : List α}
    (h : ∀ i, ∀ x ∈ xs, (∃ y, compile i x = .ok y) ↔ ∀ p ∈ patterns x, Compiles lib p) :
    (∃ ys, forEach label compile xs = .ok ys) ↔ ∀ p ∈ xs.flatMap patterns, Compiles lib p := by
  rw [forEach_isOk_iff]
  constructor
  · intro hall p hp
    obtain ⟨x, hx, hpx⟩ := List.mem_flatMap.mp hp
    obtain ⟨i, hi⟩ := List.mem_iff_getElem?.mp hx
    exact (h i x hx).mp (hall (x, i) (List.mk_mem_zipIdx_iff_getElem?.mpr hi)) p hpx
  · intro hall x hx
    have hmem := List.fst_mem_of_mem_zipIdx hx
    exact (h x.2 x.1 hmem).mpr fun p hp => hall p (List.mem_flatMap.mpr ⟨x.1, hmem, hp⟩)

theorem compileMatch_isOk {m : RouteMatch} (hvalid : m.Valid) :
    (∃ cm, compileMatch lib m = .ok cm) ↔ ∀ p ∈ m.patterns, Compiles lib p := by
  have hpath := compilePath_isOk lib fun pm hpm => (hvalid.path pm hpm).1
  have hheaders := mapM_isOk_iff_patterns lib fun header hheader =>
    compileHeaderMatcher_isOk lib (hvalid.headers header hheader).1
  have hqueries := mapM_isOk_iff_patterns lib fun query hquery =>
    compileQueryMatcher_isOk lib (hvalid.queryParams query hquery).1
  simp only [RouteMatch.patterns, List.forall_mem_append, ← hpath, ← hheaders, ← hqueries]
  constructor
  · intro h
    obtain ⟨_, h⟩ := h
    obtain ⟨path, hpath, h⟩ := (bind_eq_ok _ _ _).mp h
    obtain ⟨headers, hheaders, h⟩ := (bind_eq_ok _ _ _).mp h
    obtain ⟨queries, hqueries, -⟩ := (bind_eq_ok _ _ _).mp h
    exact ⟨⟨⟨path, hpath⟩, ⟨headers, hheaders⟩⟩, ⟨queries, hqueries⟩⟩
  · intro h
    obtain ⟨⟨⟨path, hpath⟩, ⟨headers, hheaders⟩⟩, ⟨queries, hqueries⟩⟩ := h
    refine ⟨⟨path ++ methodMatchers m.method ++ headers ++ queries⟩, ?_⟩
    rw [compileMatch, hpath, hheaders, hqueries]
    rfl

/-- What passes validation is a filter the proxy can build. -/
theorem compileFilters_isOk {filters : List RouteFilter} (hvalid : ∀ f ∈ filters, f.Valid) :
    ∃ compiled, compileFilters filters = .ok compiled := by
  refine (forEach_isOk_iff _ _ _).mpr ?_
  intro x hx
  have hf := hvalid x.1 (List.fst_mem_of_mem_zipIdx hx)
  unfold RouteFilter.Valid at hf
  unfold compileFilter
  cases htype : x.1.type with
  | requestMirror =>
    simp only [htype] at hf
    obtain ⟨mirror, hmirror, -⟩ := hf
    exact ⟨.requestMirror mirror, by rw [hmirror]⟩
  | other value => simp [htype] at hf
  | requestHeaderModifier => exact ⟨_, rfl⟩
  | responseHeaderModifier => exact ⟨_, rfl⟩
  | requestRedirect => exact ⟨_, rfl⟩
  | urlRewrite => exact ⟨_, rfl⟩
  | cors => exact ⟨_, rfl⟩

theorem compileRule_isOk {rule : RouteRule} (hvalid : rule.Valid) (ruleIndex : ℕ) :
    (∃ compiled, compileRule lib ruleIndex rule = .ok compiled) ↔
      ∀ p ∈ rule.patterns, Compiles lib p := by
  have hmatches : (∃ cms, forEach (indexed "match") (fun _ => compileMatch lib)
      rule.routeMatches = .ok cms) ↔ ∀ p ∈ rule.patterns, Compiles lib p :=
    forEach_isOk_iff_patterns lib fun _ m hm => compileMatch_isOk lib (hvalid.routeMatches m hm)
  obtain ⟨filters, hfilters⟩ := compileFilters_isOk hvalid.filters
  obtain ⟨backendFilters, hbackends⟩ : ∃ compiled, forEach
      (fun idx => indexed "backend" idx ++ " filters")
      (fun _ backend => compileFilters backend.filters) rule.backends = .ok compiled := by
    refine (forEach_isOk_iff _ _ _).mpr ?_
    intro x hx
    exact compileFilters_isOk (hvalid.backends x.1 (List.fst_mem_of_mem_zipIdx hx)).filters
  rw [← hmatches]
  constructor
  · intro h
    obtain ⟨_, h⟩ := h
    obtain ⟨cms, hcms, -⟩ := (bind_eq_ok _ _ _).mp h
    exact ⟨cms, hcms⟩
  · intro h
    obtain ⟨cms, hcms⟩ := h
    refine ⟨⟨cms, rule, filters, backendFilters, computePriority rule, ruleIndex⟩, ?_⟩
    have hwrap : wrap "compile filters" (compileFilters rule.filters) = .ok filters :=
      (wrap_eq_ok _ _ _).mpr hfilters
    rw [compileRule, hcms, hwrap, hbackends]
    rfl

/-- A valid configuration is compiled exactly when its patterns are. -/
theorem compileRoutingTable_isOk (order : WildcardOrder) {cfg : Config} (hvalid : cfg.Valid) :
    (∃ table, compileRoutingTable lib order cfg = .ok table) ↔
      ∀ p ∈ cfg.patterns, Compiles lib p := by
  have hrules : (∃ compiled, forEach (indexed "rule") (compileRule lib) cfg.rules = .ok compiled) ↔
      ∀ p ∈ cfg.patterns, Compiles lib p :=
    forEach_isOk_iff_patterns lib fun i rule hrule =>
      compileRule_isOk lib (hvalid.rules rule hrule) i
  rw [← hrules]
  constructor
  · intro h
    obtain ⟨_, h⟩ := h
    obtain ⟨compiled, hcompiled, -⟩ := (bind_eq_ok _ _ _).mp h
    exact ⟨compiled, hcompiled⟩
  · intro h
    obtain ⟨compiled, hcompiled⟩ := h
    refine ⟨buildTable lib order cfg.version compiled, ?_⟩
    rw [compileRoutingTable, hcompiled]
    rfl

end Compilation

end TunnelGateway.ProxyConfig
