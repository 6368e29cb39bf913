import TunnelGateway.Fallible
import TunnelGateway.ProxyConfig

/-!
Request matching. A `RouteMatch` compiles to a conjunction of matchers; a
regular expression that does not compile or an unknown match type fails the
compilation. The request carries only what matching reads: method, host, URL
path, headers and decoded query parameters. `RouteMatch.satisfied` is the
meaning of a match stated on the configuration itself, and compilation is shown
to preserve it.
-/
namespace TunnelGateway.Matcher

open GoText Fallible ProxyConfig

/-- Bytes allowed in an HTTP header field name. -/
def isTokenChar (c : Char) : Bool :=
  c.isAlphanum || "!#$%&'*+-.^_`|~".toList.contains c

private def canonicalizeFrom : Bool → List Char → List Char
  | _, [] => []
  | upper, c :: rest =>
      (if upper then c.toUpper else c.toLower) :: canonicalizeFrom (c == '-') rest

/-- `textproto.CanonicalMIMEHeaderKey`. -/
def canonicalHeaderKey (name : String) : String :=
  if name.toList.all isTokenChar then String.ofList (canonicalizeFrom true name.toList) else name

/-- The bytes of a header field name. -/
def isToken (name : String) : Bool := name.toList.all isTokenChar

theorem toNat_lt_of_isTokenChar {c : Char} (h : isTokenChar c = true) : c.toNat < 128 := by
  rw [isTokenChar, Bool.or_eq_true] at h
  rcases h with halnum | hmark
  · have hranges : c.isAlphanum =
        ((decide ('A'.val ≤ c.val ∧ c.val ≤ 'Z'.val) || ('a'.val ≤ c.val && c.val ≤ 'z'.val)) ||
          ('0'.val ≤ c.val && c.val ≤ '9'.val)) := rfl
    rw [hranges] at halnum
    simp only [Bool.or_eq_true, Bool.and_eq_true, decide_eq_true_eq, UInt32.le_iff_toNat_le]
      at halnum
    have hval : c.toNat = c.val.toNat := rfl
    have h9 : '9'.val.toNat = 57 := rfl
    have hZ : 'Z'.val.toNat = 90 := rfl
    have hz : 'z'.val.toNat = 122 := rfl
    omega
  · have hmarks : ("!#$%&'*+-.^_`|~".toList.all fun c => c.toNat < 128) = true := by decide
    exact of_decide_eq_true (List.all_eq_true.mp hmarks c (List.contains_iff_mem.mp hmark))

theorem toLower_char_ascii : ∀ n < 128,
    (Char.ofNat n).toLower.toUpper = (Char.ofNat n).toUpper ∧
    (Char.ofNat n).toLower.toLower = (Char.ofNat n).toLower ∧
    ((Char.ofNat n).toLower == '-') = (Char.ofNat n == '-') ∧
    (isTokenChar (Char.ofNat n) = true → isTokenChar (Char.ofNat n).toLower = true) := by
  decide

theorem lowerRune_of_isTokenChar (lib : GoLib) {c : Char} (h : isTokenChar c = true) :
    lib.lowerRune c = c.toLower ∧ c.toLower.toUpper = c.toUpper ∧ c.toLower.toLower = c.toLower ∧
      (c.toLower == '-') = (c == '-') ∧ isTokenChar c.toLower = true := by
  have hascii := toNat_lt_of_isTokenChar h
  have hlower := toLower_char_ascii c.toNat hascii
  rw [Char.ofNat_toNat] at hlower
  obtain ⟨hupper, hidem, hdash, htoken⟩ := hlower
  exact ⟨lib.lowerRune_ascii c hascii, hupper, hidem, hdash, htoken h⟩

private theorem canonicalizeFrom_lower (lib : GoLib) (upper : Bool) (name : List Char)
    (h : ∀ c ∈ name, isTokenChar c = true) :
    canonicalizeFrom upper (name.map lib.lowerRune) = canonicalizeFrom upper name := by
  induction name generalizing upper with
  | nil => rfl
  | cons c rest ih =>
    obtain ⟨hlower, hupper, hidem, hdash, -⟩ :=
      lowerRune_of_isTokenChar lib (h c List.mem_cons_self)
    rw [List.map_cons, canonicalizeFrom, canonicalizeFrom, hlower, hupper, hidem, hdash,
      ih _ fun c hc => h c (List.mem_cons_of_mem _ hc)]

theorem isToken_toLower (lib : GoLib) {name : String} (h : isToken name = true) :
    isToken (toLower lib name) = true := by
  rw [isToken, List.all_eq_true] at h ⊢
  intro c hc
  rw [toList_toLower] at hc
  obtain ⟨d, hd, rfl⟩ := List.mem_map.mp hc
  obtain ⟨hlower, -, -, -, htoken⟩ := lowerRune_of_isTokenChar lib (h d hd)
  rw [hlower]
  exact htoken

/-- Header names that are tokens are compared without regard to case. -/
theorem canonicalHeaderKey_toLower (lib : GoLib) {name : String} (h : isToken name = true) :
    canonicalHeaderKey (toLower lib name) = canonicalHeaderKey name := by
  have hlower := isToken_toLower lib h
  unfold canonicalHeaderKey
  rw [isToken] at h hlower
  rw [if_pos h, if_pos hlower, toList_toLower,
    canonicalizeFrom_lower lib true _ (List.all_eq_true.mp h)]

/-- Header values by canonical name. -/
abbrev Header := String → List String

def Header.values (h : Header) (name : String) : List String := h (canonicalHeaderKey name)

def Header.get (h : Header) (name : String) : String := (h.values name).headD ""

def Header.set (h : Header) (name value : String) : Header :=
  Function.update h (canonicalHeaderKey name) [value]

def Header.add (h : Header) (name value : String) : Header :=
  Function.update h (canonicalHeaderKey name) (h.values name ++ [value])

def Header.del (h : Header) (name : String) : Header :=
  Function.update h (canonicalHeaderKey name) []

@[simp]
theorem Header.values_set (h : Header) (name value : String) :
    (h.set name value).values name = [value] :=
  Function.update_self ..

theorem Header.values_set_of_ne (h : Header) (name value : String) {other : String}
    (hne : canonicalHeaderKey other ≠ canonicalHeaderKey name) :
    (h.set name value).values other = h.values other :=
  Function.update_of_ne hne ..

theorem Header.values_add_of_ne (h : Header) (name value : String) {other : String}
    (hne : canonicalHeaderKey other ≠ canonicalHeaderKey name) :
    (h.add name value).values other = h.values other :=
  Function.update_of_ne hne _ _

@[simp]
theorem Header.values_del (h : Header) (name : String) : (h.del name).values name = [] :=
  Function.update_self ..

theorem Header.values_del_of_ne (h : Header) (name : String) {other : String}
    (hne : canonicalHeaderKey other ≠ canonicalHeaderKey name) :
    (h.del name).values other = h.values other :=
  Function.update_of_ne hne ..

structure Request where
  method : String
  host : String
  path : String
  header : Header
  query : String → List String

inductive RequestMatcher where
  | exactPath (path : String)
  | prefixPath (pre : String)
  | regexPath (re : String → Bool)
  | exactHeader (name value : String)
  | regexHeader (name : String) (re : String → Bool)
  | exactQuery (param value : String)
  | regexQuery (param : String) (re : String → Bool)
  | method (method : String)

/-- Segment-aware prefix match on the URL path. -/
def prefixPathMatches (pre path : String) : Bool :=
  hasPrefix path pre &&
    (len path == len pre || hasSuffix pre "/" ||
      (path.toList.drop pre.toList.length).head? == some '/')

def RequestMatcher.matchesRequest (req : Request) : RequestMatcher → Bool
  | exactPath path => req.path == path
  | prefixPath pre => prefixPathMatches pre req.path
  | regexPath re => re req.path
  | exactHeader name value => (req.header.values name).contains value
  | regexHeader name re => (req.header.values name).any re
  | exactQuery param value => (req.query param).contains value
  | regexQuery param re => (req.query param).any re
  | method m => req.method == m

structure CompiledMatch where
  matchers : List RequestMatcher

def CompiledMatch.matchesRequest (req : Request) (cm : CompiledMatch) : Bool :=
  cm.matchers.all (·.matchesRequest req)

variable (lib : GoLib)

def compilePathMatcher (pm : PathMatch) : Except String RequestMatcher :=
  match pm.type with
  | .exact => .ok (.exactPath pm.value)
  | .pathPrefix => .ok (.prefixPath pm.value)
  | .regularExpression =>
      wrap "failed to compile regex path pattern" ((lib.regexpCompile pm.value).map .regexPath)
  | .other value => .error (value ++ ": unknown path match type")

def compileHeaderMatcher (hm : HeaderMatch) : Except String RequestMatcher :=
  match hm.type with
  | .exact => .ok (.exactHeader hm.name hm.value)
  | .regularExpression =>
      wrap "failed to compile regex header pattern"
        ((lib.regexpCompile hm.value).map (.regexHeader hm.name))
  | .other value => .error (value ++ ": unknown header match type")

def compileQueryMatcher (qm : QueryParamMatch) : Except String RequestMatcher :=
  match qm.type with
  | .exact => .ok (.exactQuery qm.name qm.value)
  | .regularExpression =>
      wrap "failed to compile regex query pattern"
        ((lib.regexpCompile qm.value).map (.regexQuery qm.name))
  | .other value => .error (value ++ ": unknown query param match type")

def compilePath (path : Option PathMatch) : Except String (List RequestMatcher) :=
  match path with
  | none => .ok []
  | some pm => (compilePathMatcher lib pm).map ([·])

def methodMatchers (method : String) : List RequestMatcher :=
  if method = "" then [] else [.method method]

/-- The path, method, header and query matchers of one match, in that order. -/
def compileMatch (m : RouteMatch) : Except String CompiledMatch := do
  let path ← compilePath lib m.path
  let headers ← m.headers.mapM (compileHeaderMatcher lib)
  let queries ← m.queryParams.mapM (compileQueryMatcher lib)
  return ⟨path ++ methodMatchers m.method ++ headers ++ queries⟩

/-- What one path match means for a request. -/
def pathSatisfied (req : Request) (pm : PathMatch) : Bool :=
  match pm.type with
  | .exact => req.path == pm.value
  | .pathPrefix => prefixPathMatches pm.value req.path
  | .regularExpression => (lib.regexpCompile pm.value).toOption.any (· req.path)
  | .other _ => false

/-- What one header or query match means for the values present under its name. -/
def valueSatisfied (type : ValueMatchType) (pattern : String) (values : List String) : Bool :=
  match type with
  | .exact => values.contains pattern
  | .regularExpression => (lib.regexpCompile pattern).toOption.any (values.any ·)
  | .other _ => false

/-- The conditions of one match are ANDed. -/
def satisfied (req : Request) (m : RouteMatch) : Bool :=
  m.path.all (pathSatisfied lib req) &&
  (m.method == "" || req.method == m.method) &&
  m.headers.all (fun hm => valueSatisfied lib hm.type hm.value (req.header.values hm.name)) &&
  m.queryParams.all (fun qm => valueSatisfied lib qm.type qm.value (req.query qm.name))

theorem compilePathMatcher_matches (req : Request) (pm : PathMatch) (rm : RequestMatcher)
    (h : compilePathMatcher lib pm = .ok rm) :
    rm.matchesRequest req = pathSatisfied lib req pm := by
  unfold compilePathMatcher at h
  unfold pathSatisfied
  split at h
  · cases h; rfl
  · cases h; rfl
  · rw [wrap_eq_ok, map_eq_ok] at h
    obtain ⟨re, hre, rfl⟩ := h
    simp [hre, RequestMatcher.matchesRequest, Except.toOption]
  · cases h

theorem compileHeaderMatcher_matches (req : Request) (hm : HeaderMatch) (rm : RequestMatcher)
    (h : compileHeaderMatcher lib hm = .ok rm) :
    rm.matchesRequest req =
      valueSatisfied lib hm.type hm.value (req.header.values hm.name) := by
  unfold compileHeaderMatcher at h
  unfold valueSatisfied
  split at h
  · cases h; rfl
  · rw [wrap_eq_ok, map_eq_ok] at h
    obtain ⟨re, hre, rfl⟩ := h
    simp [hre, RequestMatcher.matchesRequest, Except.toOption]
  · cases h

theorem compileQueryMatcher_matches (req : Request) (qm : QueryParamMatch) (rm : RequestMatcher)
    (h : compileQueryMatcher lib qm = .ok rm) :
    rm.matchesRequest req = valueSatisfied lib qm.type qm.value (req.query qm.name) := by
  unfold compileQueryMatcher at h
  unfold valueSatisfied
  split at h
  · cases h; rfl
  · rw [wrap_eq_ok, map_eq_ok] at h
    obtain ⟨re, hre, rfl⟩ := h
    simp [hre, RequestMatcher.matchesRequest, Except.toOption]
  · cases h

private theorem compilePath_matches (req : Request) (path : Option PathMatch)
    (rms : List RequestMatcher) (h : compilePath lib path = .ok rms) :
    rms.all (·.matchesRequest req) = path.all (pathSatisfied lib req) := by
  cases path with
  | none => cases h; rfl
  | some pm =>
    obtain ⟨rm, hrm, rfl⟩ := (map_eq_ok _ _ _).mp h
    simp [compilePathMatcher_matches lib req pm rm hrm]

private theorem methodMatchers_matches (req : Request) (method : String) :
    (methodMatchers method).all (·.matchesRequest req) =
      (method == "" || req.method == method) := by
  unfold methodMatchers
  by_cases hm : method = ""
  · simp [hm]
  · simp [hm, RequestMatcher.matchesRequest]

/-- A compiled match holds exactly where the match it was compiled from holds. -/
theorem compileMatch_matches (req : Request) (m : RouteMatch) (cm : CompiledMatch)
    (h : compileMatch lib m = .ok cm) : cm.matchesRequest req = satisfied lib req m := by
  obtain ⟨path, hpath, h⟩ := (bind_eq_ok _ _ _).mp h
  obtain ⟨headers, hheaders, h⟩ := (bind_eq_ok _ _ _).mp h
  obtain ⟨queries, hqueries, h⟩ := (bind_eq_ok _ _ _).mp h
  cases h
  simp only [CompiledMatch.matchesRequest, List.all_append, satisfied]
  rw [compilePath_matches lib req m.path path hpath, methodMatchers_matches,
    all_of_mapM_eq_ok _ _ _ (compileHeaderMatcher_matches lib req) m.headers headers hheaders,
    all_of_mapM_eq_ok _ _ _ (compileQueryMatcher_matches lib req) m.queryParams queries hqueries]

end TunnelGateway.Matcher
