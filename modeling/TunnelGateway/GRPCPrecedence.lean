import TunnelGateway.GRPCMatching
import TunnelGateway.MatchPrecedence

/-!
Which of several gRPC rules takes a call. A rule names the service, the method or
both by exact values, and the Gateway API ranks rules by the characters of the
service, then of the method, then by the number of headers. The converter turns the
three namings into three types of path match, which the router ranks in the order it
has for HTTP: there the expression generated for a method alone comes before the
prefix generated for a service alone.
-/
namespace TunnelGateway.GRPCPrecedence

open GoText ProxyConfig Matcher Router RouteSpec RouteConversion GoRegexp RoutingOptimality
  ServiceTarget GRPCMatching

/-- A rule with one match on an exact service, an exact method or both, within the limits of
the schema, beside what its conversion reads from the route. -/
structure ExactRule where
  rule : GRPCRouteRule
  ns : String
  resolvers : Resolvers
  clientCert : Option ClientCertConfig
  method : GRPCMethodMatch
  headers : List GRPCHeaderMatch
  single : rule.routeMatches = [⟨some method, headers⟩]
  exact : method.type ≠ some .regularExpression
  named : method.service.getD "" ≠ "" ∨ method.method.getD "" ≠ ""
  service_le : len (method.service.getD "") ≤ 1024
  method_le : len (method.method.getD "") ≤ 1024
  headers_le : headers.length ≤ 16

section Naming

/-- What a rule names. -/
inductive Naming where
  | both
  | service
  | method
  deriving DecidableEq

def ExactRule.naming (r : ExactRule) : Naming :=
  if r.method.service.getD "" = "" then .method
  else if r.method.method.getD "" = "" then .service
  else .both

/-- The order of the specification; an omitted name counts no characters. -/
def ExactRule.key (r : ExactRule) : ℕ ×ₗ ℕ ×ₗ ℕ :=
  toLex ((r.method.service.getD "").toList.length,
    toLex ((r.method.method.getD "").toList.length, r.headers.length))

/-- The path match of a rule that accepts a call of `m` on `s`. -/
def Naming.path (lib : GoLib) (s m : String) : Naming → PathMatch
  | .both => ⟨.exact, "/" ++ s ++ "/" ++ m⟩
  | .service => ⟨.pathPrefix, "/" ++ s ++ "/"⟩
  | .method => ⟨.regularExpression, "^/" ++ grpcSegmentPattern ++ "/" ++ lib.quoteMeta m ++ "$"⟩

def Naming.key (s m : String) (headers : ℕ) : Naming → ℕ ×ₗ ℕ ×ₗ ℕ
  | .both => toLex (s.toList.length, toLex (m.toList.length, headers))
  | .service => toLex (s.toList.length, toLex (0, headers))
  | .method => toLex (0, toLex (m.toList.length, headers))

def ExactRule.Accepts (lib : GoLib) (tables : Tables) (req : Request) (s m : String)
    (r : ExactRule) : Prop :=
  GRPCMatching.Accepts lib tables req s m ⟨some r.method, r.headers⟩

variable {lib : GoLib} {tables : Tables} {req : Request} {s m : String} {r : ExactRule}

/-- An exact value that accepts a segment is that segment. -/
theorem ExactRule.Accepts.names (h : r.Accepts lib tables req s m) :
    (r.method.service.getD "" = "" ∨ r.method.service.getD "" = s) ∧
      (r.method.method.getD "" = "" ∨ r.method.method.getD "" = m) := by
  have hnames := h.1 r.method rfl
  rw [SegmentAccepts, SegmentAccepts, if_neg r.exact, if_neg r.exact] at hnames
  exact hnames

theorem ExactRule.Accepts.key_eq (h : r.Accepts lib tables req s m) :
    r.key = r.naming.key s m r.headers.length := by
  obtain ⟨hservice, hmethod⟩ := h.names
  unfold ExactRule.key ExactRule.naming
  split_ifs with hs hm
  · have hname := hmethod.resolve_left (r.named.resolve_left (not_not.mpr hs))
    rw [hs, hname]
    rfl
  · rw [hservice.resolve_left hs, hm]
    rfl
  · rw [hservice.resolve_left hs, hmethod.resolve_left hm]
    rfl

theorem ExactRule.Accepts.path_eq (h : r.Accepts lib tables req s m) :
    grpcMethodToPath lib (some r.method) = some (r.naming.path lib s m) := by
  obtain ⟨hservice, hmethod⟩ := h.names
  unfold ExactRule.naming
  split_ifs with hs hm
  · have hne := r.named.resolve_left (not_not.mpr hs)
    rw [grpcMethodToPath_method r.exact hs hne, hmethod.resolve_left hne]
    rfl
  · rw [grpcMethodToPath_service r.exact hs hm, hservice.resolve_left hs]
    rfl
  · rw [grpcMethodToPath_both r.exact hs hm, hservice.resolve_left hs, hmethod.resolve_left hm]
    rfl

end Naming

section Scores

variable {lib : GoLib} {tables : Tables} {req : Request} {s m : String} {hostnames : List String}
  {r r' : ExactRule}

def ExactRule.converted (lib : GoLib) (hostnames : List String) (r : ExactRule) : RouteRule :=
  convertGRPCRouteRule lib r.resolvers r.ns hostnames r.clientCert r.rule

/-- What the path match of a rule is worth. -/
def Naming.score (lib : GoLib) (s m : String) (n : Naming) : ℕ :=
  pathTypeScore (n.path lib s m).type + len (n.path lib s m).value * priorityPathLength

theorem constrained_single (r : ExactRule) : Constrained ⟨some r.method, r.headers⟩ :=
  .inr ⟨r.method, rfl, r.named⟩

theorem routeMatches_converted (lib : GoLib) (hostnames : List String) (r : ExactRule) :
    (r.converted lib hostnames).routeMatches =
      [convertedMatch lib ⟨some r.method, r.headers⟩] := by
  have hsome : convertGRPCMatch lib ⟨some r.method, r.headers⟩ =
      some (convertedMatch lib ⟨some r.method, r.headers⟩) :=
    convertGRPCMatch_eq_some_iff.mpr ⟨constrained_single r, rfl⟩
  simp [ExactRule.converted, convertGRPCRouteRule, r.single, hsome]

theorem ExactRule.Accepts.priority_eq (h : r.Accepts lib tables req s m) :
    computePriority (r.converted lib hostnames) =
      r.naming.score lib s m + r.headers.length * priorityPerHeader := by
  have hsingle :=
    MatchPrecedence.ruleSpecificity_single (routeMatches_converted lib hostnames r)
  rw [MatchPrecedence.computePriority_eq, hsingle, Naming.score, MatchPrecedence.pathTypeScore_eq]
  simp [MatchPrecedence.encode, MatchPrecedence.matchSpecificity, PriorityScan.total,
    convertedMatch, h.path_eq]

theorem ruleSatisfied_iff (hlib : FollowsGoRegexp lib tables) (hs : IsSegment s)
    (hm : IsSegment m) (hpath : req.path = "/" ++ s ++ "/" ++ m) :
    RuleSatisfied lib req (r.converted lib hostnames) ↔ r.Accepts lib tables req s m := by
  have hkept : ∀ gm ∈ r.rule.routeMatches, MethodKept tables gm.method := by
    rw [r.single]
    intro gm hgm mm hmm htype
    obtain rfl := List.mem_singleton.mp hgm
    cases hmm
    exact absurd htype r.exact
  have hsome : ∃ gm ∈ r.rule.routeMatches, Constrained gm := by
    rw [r.single]
    exact ⟨_, List.mem_singleton_self _, constrained_single r⟩
  rw [ExactRule.converted, ruleSatisfied_converted_iff hlib hkept hsome hs hm hpath, r.single]
  simp [ExactRule.Accepts, constrained_single]

theorem len_ofList_cons (c : Char) (l : List Char) :
    len (String.ofList (c :: l)) = c.utf8Size + len (String.ofList l) := by
  rw [String.ofList_cons, len_append, len, String.utf8ByteSize_singleton]

/-- Quoting puts at most one byte before every character. -/
theorem len_quoteMeta_le (text : String) : len (quoteMeta text) ≤ 2 * len text := by
  have hlist : ∀ l : List Char, len (String.ofList (l.flatMap fun c =>
      if c ∈ metaChars then ['\\', c] else [c])) ≤ 2 * len (String.ofList l) := by
    intro l
    induction l with
    | nil => exact Nat.zero_le _
    | cons c l ih =>
      have hpos := c.utf8Size_pos
      have hback : '\\'.utf8Size = 1 := rfl
      have hempty : len (String.ofList []) = 0 := rfl
      rw [List.flatMap_cons, String.ofList_append, len_append, len_ofList_cons c l]
      split_ifs
      · rw [len_ofList_cons, len_ofList_cons]
        omega
      · rw [len_ofList_cons]
        omega
  have htext := hlist text.toList
  rwa [String.ofList_toList] at htext

theorem score_service_lt (lib : GoLib) (m : String) (hs : len s ≤ 1024) :
    Naming.service.score lib s m + 160 < Naming.method.score lib s m := by
  have hslash : len "/" = 1 := rfl
  simp only [Naming.score, Naming.path, pathTypeScore, priorityPrefixPath, priorityRegexPath,
    priorityPathLength, len_append]
  omega

theorem score_method_lt (s : String) (hlib : FollowsGoRegexp lib tables) (hm : len m ≤ 1024) :
    Naming.method.score lib s m + 160 < Naming.both.score lib s m := by
  have hfixed : len "^/" = 2 ∧ len grpcSegmentPattern = 5 ∧ len "/" = 1 ∧ len "$" = 1 := by
    decide +kernel
  have hquoted := len_quoteMeta_le m
  rw [← hlib.quotes] at hquoted
  obtain ⟨hopen, hsegment, hslash, hclose⟩ := hfixed
  simp only [Naming.score, Naming.path, pathTypeScore, priorityExactPath, priorityRegexPath,
    priorityPathLength, len_append]
  omega

end Scores

section Ranking

variable {lib : GoLib} {tables : Tables} {req : Request} {s m : String} {hostnames : List String}
  {r r' : ExactRule}

theorem ExactRule.Accepts.len_le (h : r.Accepts lib tables req s m) :
    (r.naming ≠ .method → len s ≤ 1024) ∧ (r.naming ≠ .service → len m ≤ 1024) := by
  obtain ⟨hservice, hmethod⟩ := h.names
  have hservice_le := r.service_le
  have hmethod_le := r.method_le
  unfold ExactRule.naming
  split_ifs with hs hm
  · have hne := r.named.resolve_left (not_not.mpr hs)
    rw [hmethod.resolve_left hne] at hmethod_le
    exact ⟨fun h => absurd rfl h, fun _ => hmethod_le⟩
  · rw [hservice.resolve_left hs] at hservice_le
    exact ⟨fun _ => hservice_le, fun h => absurd rfl h⟩
  · rw [hservice.resolve_left hs] at hservice_le
    rw [hmethod.resolve_left hm] at hmethod_le
    exact ⟨fun _ => hservice_le, fun _ => hmethod_le⟩

/-- The router's order of the namings. -/
def Naming.place : Naming → ℕ
  | .service => 0
  | .method => 1
  | .both => 2

theorem Naming.place_lt_cases {n n' : Naming} (h : n.place < n'.place) :
    n = .service ∧ n' = .method ∨ n = .service ∧ n' = .both ∨ n = .method ∧ n' = .both := by
  cases n <;> cases n' <;> simp_all [Naming.place]

theorem priority_lt_of_place_lt (hlib : FollowsGoRegexp lib tables)
    (hr : r.Accepts lib tables req s m) (hr' : r'.Accepts lib tables req s m)
    (h : r.naming.place < r'.naming.place) :
    computePriority (r.converted lib hostnames) < computePriority (r'.converted lib hostnames) := by
  have hheaders := r.headers_le
  obtain ⟨hs, -⟩ := hr.len_le
  obtain ⟨-, hm⟩ := hr'.len_le
  rw [hr.priority_eq, hr'.priority_eq, priorityPerHeader]
  rcases Naming.place_lt_cases h with ⟨hn, hn'⟩ | ⟨hn, hn'⟩ | ⟨hn, hn'⟩
  · rw [hn] at hs
    rw [hn, hn']
    have hservice := score_service_lt lib m (hs (by decide))
    omega
  · rw [hn] at hs
    rw [hn'] at hm
    rw [hn, hn']
    have hservice := score_service_lt lib m (hs (by decide))
    have hmethod := score_method_lt s hlib (hm (by decide))
    omega
  · rw [hn'] at hm
    rw [hn, hn']
    have hmethod := score_method_lt s hlib (hm (by decide))
    omega

theorem Naming.key_lt_both (hs : IsSegment s) (hm : IsSegment m) {n : Naming} (h : n ≠ .both)
    (headers headers' : ℕ) : n.key s m headers' < Naming.both.key s m headers := by
  have hspos := List.length_pos_iff.mpr hs.toList_ne_nil
  have hmpos := List.length_pos_iff.mpr hm.toList_ne_nil
  cases n with
  | both => exact absurd rfl h
  | service => simp [Naming.key, Prod.Lex.toLex_lt_toLex, hmpos]
  | method => simp [Naming.key, Prod.Lex.toLex_lt_toLex, hspos]

/-- The router agrees with the specification except on a service against a method. -/
theorem key_le_of_priority_le (hlib : FollowsGoRegexp lib tables) (hs : IsSegment s)
    (hm : IsSegment m) (hr : r.Accepts lib tables req s m) (hr' : r'.Accepts lib tables req s m)
    (hle : computePriority (r'.converted lib hostnames) ≤
      computePriority (r.converted lib hostnames)) :
    r'.key ≤ r.key ∨ r.naming = .method ∧ r'.naming = .service := by
  have hplace : r'.naming.place ≤ r.naming.place :=
    not_lt.mp fun hlt => absurd (priority_lt_of_place_lt hlib hr hr' hlt) (not_lt.mpr hle)
  by_cases hsame : r'.naming = r.naming
  · left
    rw [hr.key_eq, hr'.key_eq, hsame]
    have hheaders : r'.headers.length ≤ r.headers.length := by
      rw [hr.priority_eq, hr'.priority_eq, hsame, priorityPerHeader] at hle
      omega
    cases r.naming <;> simpa [Naming.key, Prod.Lex.toLex_le_toLex] using hheaders
  · cases hn : r.naming with
    | both =>
      left
      rw [hn] at hsame
      rw [hr.key_eq, hr'.key_eq, hn]
      exact (Naming.key_lt_both hs hm hsame _ _).le
    | service =>
      cases hn' : r'.naming <;> simp_all [Naming.place]
    | method =>
      cases hn' : r'.naming <;> simp_all [Naming.place]

end Ranking

section Routing

variable {lib : GoLib} {tables : Tables} {req : Request} {s m : String} {hostnames : List String}
  {rules : List ExactRule}

/-- Rules for the service alone and for the method alone accept the call, and none for both. -/
def Mixed (lib : GoLib) (tables : Tables) (req : Request) (s m : String)
    (rules : List ExactRule) : Prop :=
  (∀ r ∈ rules, r.Accepts lib tables req s m → r.naming ≠ .both) ∧
    (∃ r ∈ rules, r.Accepts lib tables req s m ∧ r.naming = .service) ∧
    ∃ r ∈ rules, r.Accepts lib tables req s m ∧ r.naming = .method

/-- The rule of the highest priority is maximal unless the accepting rules are mixed. -/
theorem maximal_iff_not_mixed (hlib : FollowsGoRegexp lib tables) (hs : IsSegment s)
    (hm : IsSegment m) {r : ExactRule} (hr : r.Accepts lib tables req s m)
    (hmem : r ∈ rules) (hbest : ∀ r' ∈ rules, r'.Accepts lib tables req s m →
      computePriority (r'.converted lib hostnames) ≤ computePriority (r.converted lib hostnames)) :
    (∀ r' ∈ rules, r'.Accepts lib tables req s m → r'.key ≤ r.key) ↔
      ¬ Mixed lib tables req s m rules := by
  have hplace : ∀ r' ∈ rules, r'.Accepts lib tables req s m →
      r'.naming.place ≤ r.naming.place := by
    intro r' hmem' hr'
    by_contra hlt
    exact absurd (hbest r' hmem' hr')
      (not_le.mpr (priority_lt_of_place_lt hlib hr hr' (not_le.mp hlt)))
  constructor
  · rintro hmax ⟨hnone, ⟨r₁, hmem₁, hr₁, hn₁⟩, r₂, hmem₂, hr₂, hn₂⟩
    have hmethod : r.naming = .method := by
      have hle := hplace r₂ hmem₂ hr₂
      have hboth := hnone r hmem hr
      cases hn : r.naming with
      | method => rfl
      | both => exact absurd hn hboth
      | service => simp [hn, hn₂, Naming.place] at hle
    have hle := hmax r₁ hmem₁ hr₁
    rw [hr.key_eq, hr₁.key_eq, hmethod, hn₁] at hle
    simp [Naming.key, Prod.Lex.toLex_le_toLex] at hle
    exact hs.1 hle.1
  · intro hmixed r' hmem' hr'
    refine (key_le_of_priority_le hlib hs hm hr hr' (hbest r' hmem' hr')).resolve_right ?_
    rintro ⟨hn, hn'⟩
    refine hmixed ⟨?_, ⟨r', hmem', hr', hn'⟩, r, hmem, hr, hn⟩
    intro r₃ hmem₃ hr₃ hn₃
    have hle := hplace r₃ hmem₃ hr₃
    simp [hn, hn₃, Naming.place] at hle

variable {cfg : Config} {order : WildcardOrder} {table : RoutingTable}

/-- The host of the request fits the hostnames. -/
def HostFits (lib : GoLib) (hostnames : List String) (host : String) : Prop :=
  ∃ bucket, InBucket lib host { hostnames := hostnames } bucket

/-- In one bucket a lower rank is no higher priority. -/
theorem priority_le_of_rank_lt {bucket : Bucket} {i i' : ℕ} {rule rule' : RouteRule}
    (h : Candidate.rank ⟨bucket, i', rule'⟩ < Candidate.rank ⟨bucket, i, rule⟩) :
    computePriority rule' ≤ computePriority rule := by
  simp only [Candidate.rank, rank, Prod.Lex.toLex_lt_toLex, lt_irrefl, false_or, true_and] at h
  rcases h with hlt | ⟨heq, -⟩
  · exact hlt.le
  · exact heq.le

/-- The candidates of a call are the accepting rules. -/
theorem isCandidate_iff (hlib : FollowsGoRegexp lib tables)
    (hrules : cfg.rules = rules.map (ExactRule.converted lib hostnames)) (hs : IsSegment s)
    (hm : IsSegment m) (hpath : req.path = "/" ++ s ++ "/" ++ m) (c : Candidate) :
    IsCandidate lib cfg req c ↔
      InBucket lib (extractHost lib req) { hostnames := hostnames } c.bucket ∧
        ∃ r, rules[c.index]? = some r ∧ c.rule = r.converted lib hostnames ∧
          r.Accepts lib tables req s m := by
  have hlisted : cfg.rules[c.index]? = some c.rule ↔
      ∃ r, rules[c.index]? = some r ∧ c.rule = r.converted lib hostnames := by
    simp [hrules, eq_comm]
  constructor
  · rintro ⟨hlist, hbucket, hsatisfied⟩
    obtain ⟨r, hr, hrule⟩ := hlisted.mp hlist
    rw [hrule] at hbucket hsatisfied
    exact ⟨hbucket, r, hr, hrule, (ruleSatisfied_iff hlib hs hm hpath).mp hsatisfied⟩
  · rintro ⟨hbucket, r, hr, hrule, haccepts⟩
    refine ⟨hlisted.mpr ⟨r, hr, hrule⟩, ?_, ?_⟩
    · rw [hrule]
      exact hbucket
    · rw [hrule]
      exact (ruleSatisfied_iff hlib hs hm hpath).mpr haccepts

/-- A call goes to an accepting rule of the highest priority. -/
theorem route_of_rules (hlib : FollowsGoRegexp lib tables)
    (hrules : cfg.rules = rules.map (ExactRule.converted lib hostnames))
    (hcompile : compileRoutingTable lib order cfg = .ok table)
    (hhost : HostFits lib hostnames (extractHost lib req)) (hs : IsSegment s) (hm : IsSegment m)
    (hpath : req.path = "/" ++ s ++ "/" ++ m) (rand : ℕ → ℕ) :
    (route lib table rand req = none ↔ ∀ r ∈ rules, ¬ r.Accepts lib tables req s m) ∧
    ∀ result, route lib table rand req = some result →
      ∃ r, rules[result.ruleIndex]? = some r ∧ r.Accepts lib tables req s m ∧
        ∀ r' ∈ rules, r'.Accepts lib tables req s m →
          computePriority (r'.converted lib hostnames) ≤
            computePriority (r.converted lib hostnames) := by
  have hcandidate := isCandidate_iff hlib hrules hs hm hpath
  obtain ⟨bucket₀, hbucket₀⟩ := hhost
  obtain ⟨hnone, hbest⟩ := route_best lib cfg req hcompile rand
  constructor
  · rw [hnone]
    constructor
    · intro hno r hmem hr
      obtain ⟨i, hi⟩ := List.mem_iff_getElem?.mp hmem
      exact hno ⟨⟨bucket₀, i, _⟩, (hcandidate _).mpr ⟨hbucket₀, r, hi, rfl, hr⟩⟩
    · rintro hno ⟨c, hc⟩
      obtain ⟨-, r, hi, -, hr⟩ := (hcandidate c).mp hc
      exact hno r (List.mem_of_getElem? hi) hr
  · intro result hresult
    obtain ⟨⟨bucket, index, rule⟩, hc, rfl, -, hmax⟩ := hbest result hresult
    obtain ⟨hbucket, r, hi, rfl, hr⟩ := (hcandidate _).mp hc
    refine ⟨r, hi, hr, ?_⟩
    intro r' hmem' hr'
    obtain ⟨i', hi'⟩ := List.mem_iff_getElem?.mp hmem'
    have hc' := (hcandidate ⟨bucket, i', _⟩).mpr ⟨hbucket, r', hi', rfl, hr'⟩
    by_cases heq : (⟨bucket, i', r'.converted lib hostnames⟩ : Candidate) =
        ⟨bucket, result.ruleIndex, r.converted lib hostnames⟩
    · rw [(Candidate.mk.inj heq).2.2]
    · exact priority_le_of_rank_lt (hmax _ hc' heq)

/-- Among rules on exact names that share their hostnames, a call goes to one that is maximal
in the order of the specification exactly when the accepting rules are not mixed. -/
theorem grpc_precedence_iff (hlib : FollowsGoRegexp lib tables)
    (hrules : cfg.rules = rules.map (ExactRule.converted lib hostnames))
    (hcompile : compileRoutingTable lib order cfg = .ok table)
    (hhost : HostFits lib hostnames (extractHost lib req)) (hs : IsSegment s) (hm : IsSegment m)
    (hpath : req.path = "/" ++ s ++ "/" ++ m) (rand : ℕ → ℕ) :
    (route lib table rand req = none ↔ ∀ r ∈ rules, ¬ r.Accepts lib tables req s m) ∧
    ∀ result, route lib table rand req = some result →
      ∃ r, rules[result.ruleIndex]? = some r ∧ r.Accepts lib tables req s m ∧
        ((∀ r' ∈ rules, r'.Accepts lib tables req s m → r'.key ≤ r.key) ↔
          ¬ Mixed lib tables req s m rules) := by
  obtain ⟨hnone, hsome⟩ := route_of_rules hlib hrules hcompile hhost hs hm hpath rand
  refine ⟨hnone, ?_⟩
  intro result hresult
  obtain ⟨r, hi, hr, hbest⟩ := hsome result hresult
  exact ⟨r, hi, hr, maximal_iff_not_mixed hlib hs hm hr (List.mem_of_getElem? hi) hbest⟩

end Routing

section Calls

/-- A rule on exact names in a route of its own. -/
def exactRule (service method : Option String)
    (named : service.getD "" ≠ "" ∨ method.getD "" ≠ "")
    (service_le : len (service.getD "") ≤ 1024) (method_le : len (method.getD "") ≤ 1024) :
    ExactRule where
  rule := { routeMatches := [⟨some ⟨none, service, method⟩, []⟩] }
  ns := "default"
  resolvers := plainResolvers
  clientCert := none
  method := ⟨none, service, method⟩
  headers := []
  single := rfl
  exact := (Option.some_ne_none _).symm
  named := named
  service_le := service_le
  method_le := method_le
  headers_le := Nat.zero_le 16

theorem foo_named : (some "foo").getD "" ≠ "" := by decide

theorem len_names : len "" ≤ 1024 ∧ len "foo" ≤ 1024 ∧ len "get" ≤ 1024 := by decide

def fooRule : ExactRule := exactRule (some "foo") none (.inl foo_named) len_names.2.1 len_names.1

def getRule : ExactRule := exactRule none (some "get") (.inr (by decide)) len_names.1 len_names.2.2

def fooGetRule : ExactRule :=
  exactRule (some "foo") (some "get") (.inl foo_named) len_names.2.1 len_names.2.2

def grpcConfig (rules : List ExactRule) : Config where
  version := 1
  rules := rules.map (ExactRule.converted regexpLib ["grpc.example.com"])

theorem accepts_exactRule {service method : Option String}
    (named : service.getD "" ≠ "" ∨ method.getD "" ≠ "")
    (service_le : len (service.getD "") ≤ 1024) (method_le : len (method.getD "") ≤ 1024)
    {s m : String} (hservice : service.getD "" = "" ∨ service.getD "" = s)
    (hmethod : method.getD "" = "" ∨ method.getD "" = m) :
    (exactRule service method named service_le method_le).Accepts regexpLib asciiTables
      (call s m) s m := by
  refine ⟨?_, ?_⟩
  · intro mm hmm
    cases hmm
    exact ⟨hservice, hmethod⟩
  · intro header hheader
    cases hheader

theorem fooRule_accepts : fooRule.Accepts regexpLib asciiTables (call "foo" "get") "foo" "get" :=
  accepts_exactRule _ _ _ (.inr rfl) (.inl rfl)

theorem getRule_accepts : getRule.Accepts regexpLib asciiTables (call "foo" "get") "foo" "get" :=
  accepts_exactRule _ _ _ (.inl rfl) (.inr rfl)

theorem fooGetRule_accepts :
    fooGetRule.Accepts regexpLib asciiTables (call "foo" "get") "foo" "get" :=
  accepts_exactRule _ _ _ (.inr rfl) (.inr rfl)

/-- A rule for service and method comes first, whatever else accepts the call. -/
theorem both_names_first :
    ∃ table, compileRoutingTable regexpLib .stable
        (grpcConfig [fooRule, getRule, fooGetRule]) = .ok table ∧
      ∃ result, route regexpLib table (fun _ => 0) (call "foo" "get") = some result ∧
        ∃ r, [fooRule, getRule, fooGetRule][result.ruleIndex]? = some r ∧
          fooRule.key ≤ r.key ∧ getRule.key ≤ r.key ∧ fooGetRule.key ≤ r.key := by
  have hrun : (compileRoutingTable regexpLib .stable
      (grpcConfig [fooRule, getRule, fooGetRule])).toOption.isSome = true := by
    decide +kernel
  obtain ⟨table, htable⟩ := Option.isSome_iff_exists.mp hrun
  have hcompile := (Fallible.toOption_eq_some _ _).mp htable
  have hhost : HostFits regexpLib ["grpc.example.com"]
      (extractHost regexpLib (call "foo" "get")) :=
    ⟨.exact, "grpc.example.com", List.mem_singleton_self _, by decide +kernel⟩
  obtain ⟨hnone, hsome⟩ := grpc_precedence_iff regexpLib_follows rfl hcompile hhost
    (s := "foo") (m := "get") (by decide) (by decide) rfl fun _ => 0
  have hmixed : ¬ Mixed regexpLib asciiTables (call "foo" "get") "foo" "get"
      [fooRule, getRule, fooGetRule] :=
    fun h => h.1 fooGetRule (by simp) fooGetRule_accepts (by decide +kernel)
  cases hroute : route regexpLib table (fun _ => 0) (call "foo" "get") with
  | none => exact absurd fooRule_accepts (hnone.mp hroute fooRule List.mem_cons_self)
  | some result =>
    obtain ⟨r, hr, -, hiff⟩ := hsome result hroute
    have hmax := hiff.mpr hmixed
    exact ⟨table, hcompile, result, hroute, r, hr, hmax fooRule (by simp) fooRule_accepts,
      hmax getRule (by simp) getRule_accepts, hmax fooGetRule (by simp) fooGetRule_accepts⟩

/-- The rule for the method alone is chosen over the one for the service alone. -/
theorem method_chosen_over_service :
    fooRule.Accepts regexpLib asciiTables (call "foo" "get") "foo" "get" ∧
      getRule.Accepts regexpLib asciiTables (call "foo" "get") "foo" "get" ∧
      getRule.key < fooRule.key ∧
      (compileRoutingTable regexpLib .stable (grpcConfig [fooRule, getRule])).toOption.bind
        (fun table => (route regexpLib table (fun _ => 0) (call "foo" "get")).map (·.ruleIndex)) =
          some 1 := by
  refine ⟨fooRule_accepts, getRule_accepts, ?_, ?_⟩
  · decide +kernel
  · decide +kernel

end Calls

end TunnelGateway.GRPCPrecedence
