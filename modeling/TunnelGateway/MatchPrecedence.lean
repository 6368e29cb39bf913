import TunnelGateway.RoutingOptimality

/-!
How a rule with several ORed matches is ranked. The source scores a rule before
it sees a request: every component of the score is the maximum over all matches
of the rule. `Specificity` is that ranking without the numeric weights, ordered
lexicographically by path type, path length, method, headers and query
parameters; the weights encode it faithfully as long as no component overflows
into the next. Within the limits of the Gateway API headers and query parameters
can overflow: sixteen headers outweigh a method, sixteen parameters a header. A
single match has a specificity too, and a rule can outrank another by a match the
request does not satisfy.
-/
namespace TunnelGateway.MatchPrecedence

open GoText Fallible ProxyConfig Matcher Router RoutingOptimality

structure Specificity where
  tier : Fin 4 := 0
  length : ℕ := 0
  method : Bool := false
  headers : ℕ := 0
  queries : ℕ := 0
  deriving DecidableEq

/-- The precedence order of the Gateway API, most significant component first. -/
def Specificity.key (s : Specificity) : Fin 4 ×ₗ ℕ ×ₗ Bool ×ₗ ℕ ×ₗ ℕ :=
  toLex (s.tier, toLex (s.length, toLex (s.method, toLex (s.headers, s.queries))))

def pathTier : PathMatchType → Fin 4
  | .exact => 3
  | .regularExpression => 2
  | .pathPrefix => 1
  | .other _ => 0

def matchSpecificity (m : RouteMatch) : Specificity where
  tier := (m.path.map (pathTier ·.type)).getD 0
  length := (m.path.map (len ·.value)).getD 0
  method := m.method != ""
  headers := m.headers.length
  queries := m.queryParams.length

/-- Combine two specificities component by component; the path component keeps
the length that goes with the better type. -/
def Specificity.join (a b : Specificity) : Specificity where
  tier := max a.tier b.tier
  length := if a.tier < b.tier then b.length
    else if b.tier < a.tier then a.length else max a.length b.length
  method := a.method || b.method
  headers := max a.headers b.headers
  queries := max a.queries b.queries

def ruleSpecificity (rule : RouteRule) : Specificity :=
  rule.routeMatches.foldl (fun s m => s.join (matchSpecificity m)) {}

section Encoding

def tierScore : Fin 4 → ℕ
  | 0 => 0
  | 1 => priorityPrefixPath
  | 2 => priorityRegexPath
  | 3 => priorityExactPath

theorem pathTypeScore_eq (t : PathMatchType) : pathTypeScore t = tierScore (pathTier t) := by
  cases t <;> rfl

theorem tierScore_gap : ∀ a b : Fin 4, a < b → tierScore a + 100000000 ≤ tierScore b := by
  decide

theorem tierScore_lt_iff (a b : Fin 4) : tierScore a < tierScore b ↔ a < b := by
  revert a b
  decide

def encode (s : Specificity) : PriorityScan :=
  ⟨tierScore s.tier, s.length, s.method, s.headers, s.queries⟩

private theorem encode_addPath (s : Specificity) (pm : PathMatch) :
    (encode s).addPath pm =
      encode (s.join { tier := pathTier pm.type, length := len pm.value }) := by
  unfold PriorityScan.addPath
  rw [pathTypeScore_eq]
  rcases lt_trichotomy s.tier (pathTier pm.type) with h | h | h
  · have hgt : tierScore (pathTier pm.type) > (encode s).maxPathTypeScore :=
      (tierScore_lt_iff s.tier (pathTier pm.type)).mpr h
    rw [if_pos hgt]
    simp [encode, Specificity.join, h, max_eq_right h.le]
  · have hnot : ¬ tierScore (pathTier pm.type) > (encode s).maxPathTypeScore := by
      rw [← h]
      exact lt_irrefl _
    rw [if_neg hnot]
    by_cases hlen : len pm.value > s.length
    · rw [if_pos ⟨by rw [← h]; rfl, hlen⟩]
      simp [encode, Specificity.join, ← h, max_eq_right hlen.le]
    · rw [if_neg (fun hand => hlen hand.2)]
      simp [Specificity.join, ← h, max_eq_left (Nat.le_of_not_lt hlen)]
  · have hgt := (tierScore_lt_iff (pathTier pm.type) s.tier).mpr h
    have hnot : ¬ tierScore (pathTier pm.type) > (encode s).maxPathTypeScore := hgt.not_gt
    rw [if_neg hnot, if_neg (fun hand => hgt.ne hand.1)]
    simp [Specificity.join, h, h.not_gt, max_eq_left h.le]

theorem encode_add (s : Specificity) (m : RouteMatch) :
    (encode s).add m = encode (s.join (matchSpecificity m)) := by
  unfold PriorityScan.add
  cases hpath : m.path with
  | none =>
    have hzero : ¬ s.tier < 0 := Fin.not_lt_zero s.tier
    by_cases hpos : 0 < s.tier <;> simp [encode, Specificity.join, matchSpecificity, hpath]
  | some pm =>
    have haddPath := encode_addPath s pm
    simp only [haddPath]
    simp [encode, Specificity.join, matchSpecificity, hpath]

/-- The scan computes the rule's specificity. -/
theorem computePriority_eq (rule : RouteRule) :
    computePriority rule = (encode (ruleSpecificity rule)).total := by
  have hfold : ∀ (routeMatches : List RouteMatch) (s : Specificity),
      routeMatches.foldl PriorityScan.add (encode s) =
        encode (routeMatches.foldl (fun s m => s.join (matchSpecificity m)) s) := by
    intro routeMatches
    induction routeMatches with
    | nil => intro s; rfl
    | cons m rest ih =>
      intro s
      rw [List.foldl_cons, List.foldl_cons, encode_add, ih]
  unfold computePriority ruleSpecificity
  rw [← hfold]
  rfl

/-- No component carries over into the next. The path limit is the one the
Gateway API schema puts on path values. -/
structure Specificity.Bounded (s : Specificity) : Prop where
  length : s.length ≤ 1024
  headers : s.headers ≤ 9
  queries : s.queries ≤ 9

private theorem total_encode (tier : Fin 4) (length : ℕ) (method : Bool) (headers queries : ℕ) :
    (encode ⟨tier, length, method, headers, queries⟩).total =
      tierScore tier + length * 10000 + (if method then priorityMethod else 0) +
        headers * 10 + queries * 1 := rfl

/-- The limits the Gateway API schema puts on the components. -/
structure Specificity.InLimits (s : Specificity) : Prop where
  length : s.length ≤ 1024
  headers : s.headers ≤ 16
  queries : s.queries ≤ 16

/-- On the same path, the header and query points of `s` reach those of `t`, although `s`
lacks the method or has fewer headers. -/
def Specificity.Overtakes (s t : Specificity) : Prop :=
  s.tier = t.tier ∧ s.length = t.length ∧
    (s.method = false ∧ t.method = true ∨ s.method = t.method ∧ s.headers < t.headers) ∧
    (if t.method then priorityMethod else 0) + t.headers * priorityPerHeader +
        t.queries * priorityPerQueryParam ≤
      (if s.method then priorityMethod else 0) + s.headers * priorityPerHeader +
        s.queries * priorityPerQueryParam

variable {s t : Specificity}

theorem Specificity.Overtakes.key_lt (h : s.Overtakes t) : s.key < t.key := by
  obtain ⟨htier, hlength, hrank, -⟩ := h
  simp only [Specificity.key, Prod.Lex.toLex_lt_toLex, htier, hlength, lt_irrefl, true_and,
    false_or]
  rcases hrank with ⟨hs, ht⟩ | ⟨hmethod, hheaders⟩
  · rw [hs, ht]
    exact .inl (by decide)
  · exact .inr ⟨hmethod, .inl hheaders⟩

theorem Specificity.Overtakes.total_le (h : s.Overtakes t) :
    (encode t).total ≤ (encode s).total := by
  obtain ⟨htier, hlength, -, hpoints⟩ := h
  obtain ⟨tier', length', method', headers', queries'⟩ := t
  subst htier hlength
  rw [total_encode, total_encode]
  simp only [priorityPerHeader, priorityPerQueryParam] at hpoints
  omega

/-- Path type and path length dominate everything below them; nothing else does. -/
theorem total_lt_of_not_overtakes (hs : s.InLimits) (h : s.key < t.key) (hnot : ¬ s.Overtakes t) :
    (encode s).total < (encode t).total := by
  obtain ⟨tier, length, method, headers, queries⟩ := s
  obtain ⟨tier', length', method', headers', queries'⟩ := t
  obtain ⟨hlength, hheaders, hqueries⟩ := hs
  have hmethodScore : (if method then priorityMethod else 0) ≤ 100 := by cases method <;> decide
  simp only [Specificity.key, Prod.Lex.toLex_lt_toLex] at h
  simp only [Specificity.Overtakes, priorityPerHeader, priorityPerQueryParam] at hnot
  rw [total_encode, total_encode]
  dsimp only at hlength hheaders hqueries
  rcases h with htier | ⟨rfl, hlen | ⟨rfl, hmethod | ⟨rfl, hheader | ⟨rfl, hquery⟩⟩⟩⟩
  · have hgap := tierScore_gap tier tier' htier
    omega
  · omega
  · have hpoints := not_le.mp fun hle => hnot ⟨rfl, rfl, .inl (Bool.lt_iff.mp hmethod), hle⟩
    omega
  · have hpoints := not_le.mp fun hle => hnot ⟨rfl, rfl, .inr ⟨rfl, hheader⟩, hle⟩
    omega
  · omega

theorem Specificity.Bounded.inLimits (h : s.Bounded) : s.InLimits :=
  ⟨h.length, h.headers.trans (by decide), h.queries.trans (by decide)⟩

theorem Specificity.Bounded.not_overtakes (hs : s.Bounded) : ¬ s.Overtakes t := by
  rintro ⟨-, -, hrank, hpoints⟩
  obtain ⟨-, hheaders, hqueries⟩ := hs
  simp only [priorityPerHeader, priorityPerQueryParam] at hpoints
  rcases hrank with ⟨hmethod, hmethod'⟩ | ⟨hmethod, hfewer⟩
  · rw [hmethod, hmethod'] at hpoints
    simp only [priorityMethod, Bool.false_eq_true, if_true, if_false] at hpoints
    omega
  · rw [hmethod] at hpoints
    omega

theorem Specificity.Bounded.join (hs : s.Bounded) (ht : t.Bounded) : (s.join t).Bounded := by
  refine ⟨?_, max_le hs.headers ht.headers, max_le hs.queries ht.queries⟩
  unfold Specificity.join
  have hsl := hs.length
  have htl := ht.length
  split
  · exact htl
  · split
    · exact hsl
    · exact max_le hsl htl

theorem ruleSpecificity_bounded (rule : RouteRule)
    (h : ∀ m ∈ rule.routeMatches, (matchSpecificity m).Bounded) :
    (ruleSpecificity rule).Bounded := by
  have hfold : ∀ (routeMatches : List RouteMatch) (s : Specificity), s.Bounded →
      (∀ m ∈ routeMatches, (matchSpecificity m).Bounded) →
      (routeMatches.foldl (fun s m => s.join (matchSpecificity m)) s).Bounded := by
    intro routeMatches
    induction routeMatches with
    | nil => intro s hs _; exact hs
    | cons m rest ih =>
      intro s hs hall
      rw [List.forall_mem_cons] at hall
      exact ih _ (hs.join hall.1) hall.2
  exact hfold rule.routeMatches {} ⟨Nat.zero_le _, Nat.zero_le _, Nat.zero_le _⟩ h

end Encoding

/-- In a shared hostname bucket a satisfied rule beats every rule whose combined
specificity is lower. -/
theorem route_respects_combined_precedence (lib : GoLib) (cfg : Config) (req : Request)
    {order : WildcardOrder} {table : RoutingTable}
    (hcompile : compileRoutingTable lib order cfg = .ok table)
    {a b : ℕ} {ruleA ruleB : RouteRule}
    (hA : cfg.rules[a]? = some ruleA) (hB : cfg.rules[b]? = some ruleB)
    (hshared : ∀ bucket, InBucket lib (extractHost lib req) ruleA bucket →
      InBucket lib (extractHost lib req) ruleB bucket)
    (hbounded : ∀ m ∈ ruleA.routeMatches, (matchSpecificity m).Bounded)
    (hsatisfied : ∃ m ∈ ruleB.routeMatches, satisfied lib req m = true)
    (hlower : (ruleSpecificity ruleA).key < (ruleSpecificity ruleB).key)
    (rand : ℕ → ℕ) (result : RouteResult) (hroute : route lib table rand req = some result) :
    result.ruleIndex ≠ a := by
  intro hindex
  obtain ⟨c, hc, hci, -, hmax⟩ := (route_best lib cfg req hcompile rand).2 result hroute
  have hca : c.index = a := hci.trans hindex
  have hcrule : c.rule = ruleA := by
    have hlisted := hc.listed
    rw [hca, hA] at hlisted
    exact (Option.some.inj hlisted).symm
  have hpriority : computePriority c.rule < computePriority ruleB := by
    rw [hcrule, computePriority_eq, computePriority_eq]
    have hs := ruleSpecificity_bounded ruleA hbounded
    exact total_lt_of_not_overtakes hs.inLimits hlower hs.not_overtakes
  have hcand : IsCandidate lib cfg req ⟨c.bucket, b, ruleB⟩ := by
    refine ⟨hB, hshared _ ?_, Or.inr hsatisfied⟩
    rw [← hcrule]
    exact hc.inBucket
  have hne : (⟨c.bucket, b, ruleB⟩ : Candidate) ≠ c := by
    intro heq
    rw [← heq] at hpriority
    exact lt_irrefl _ hpriority
  have hlt := hmax _ hcand hne
  have hgt : c.rank < Candidate.rank ⟨c.bucket, b, ruleB⟩ := by
    simp only [Candidate.rank, rank, Prod.Lex.toLex_lt_toLex, lt_irrefl, false_or, true_and]
    exact Or.inl hpriority
  exact lt_asymm hlt hgt

section SingleMatch

/-- The limits the Gateway API schema puts on one match. -/
structure RouteMatch.WithinLimits (m : RouteMatch) : Prop where
  path : ∀ pm ∈ m.path, len pm.value ≤ 1024
  headers : m.headers.length ≤ 16
  queries : m.queryParams.length ≤ 16

theorem RouteMatch.WithinLimits.inLimits {m : RouteMatch} (h : RouteMatch.WithinLimits m) :
    (matchSpecificity m).InLimits := by
  refine ⟨?_, h.headers, h.queries⟩
  cases hpath : m.path with
  | none => simp [matchSpecificity, hpath]
  | some pm =>
    have hlength := h.path pm hpath
    simpa [matchSpecificity, hpath] using hlength

theorem ruleSpecificity_single {rule : RouteRule} {m : RouteMatch}
    (h : rule.routeMatches = [m]) : ruleSpecificity rule = matchSpecificity m := by
  rw [ruleSpecificity, h, List.foldl_cons]
  by_cases hpos : 0 < (matchSpecificity m).tier <;> simp [Specificity.join]

theorem Specificity.key_injective : Function.Injective Specificity.key := by
  rintro ⟨tier, length, method, headers, queries⟩ ⟨tier', length', method', headers', queries'⟩ h
  obtain ⟨rfl, rfl, rfl, rfl, rfl⟩ := h
  rfl

private theorem order_iff_of_lt {s t : Specificity} (hs : s.InLimits) (h : s.key < t.key) :
    (((encode s).total > (encode t).total ↔ s.key > t.key) ∧
      ((encode t).total > (encode s).total ↔ t.key > s.key)) ↔
    ¬ s.Overtakes t ∧ ¬ t.Overtakes s := by
  have hnot : ¬ t.Overtakes s := fun hover => lt_asymm h hover.key_lt
  constructor
  · rintro ⟨-, hscore⟩
    exact ⟨fun hover => not_lt.mpr hover.total_le (hscore.mpr h), hnot⟩
  · rintro ⟨hover, -⟩
    have htotal := total_lt_of_not_overtakes hs h hover
    exact ⟨iff_of_false (lt_asymm htotal) (lt_asymm h), iff_of_true htotal h⟩

/-- The scores of two rules with one match each are ordered as their specificities exactly
when neither match overtakes the other. -/
theorem priority_order_iff {ruleA ruleB : RouteRule} {a b : RouteMatch}
    (hA : ruleA.routeMatches = [a]) (hB : ruleB.routeMatches = [b])
    (ha : RouteMatch.WithinLimits a) (hb : RouteMatch.WithinLimits b) :
    ((computePriority ruleA > computePriority ruleB ↔
        (matchSpecificity a).key > (matchSpecificity b).key) ∧
      (computePriority ruleB > computePriority ruleA ↔
        (matchSpecificity b).key > (matchSpecificity a).key)) ↔
    ¬ (matchSpecificity a).Overtakes (matchSpecificity b) ∧
      ¬ (matchSpecificity b).Overtakes (matchSpecificity a) := by
  rw [computePriority_eq, computePriority_eq, ruleSpecificity_single hA, ruleSpecificity_single hB]
  rcases lt_trichotomy (matchSpecificity a).key (matchSpecificity b).key with hlt | heq | hgt
  · exact order_iff_of_lt ha.inLimits hlt
  · rw [Specificity.key_injective heq]
    have hself : ¬ (matchSpecificity b).Overtakes (matchSpecificity b) :=
      fun h => lt_irrefl _ h.key_lt
    simp [hself]
  · rw [and_comm, order_iff_of_lt hb.inLimits hgt, and_comm]

def methodMatch : RouteMatch where
  path := some ⟨.pathPrefix, "/"⟩
  method := "GET"

def headersMatch (n : ℕ) : RouteMatch where
  path := some ⟨.pathPrefix, "/"⟩
  headers := (List.range n).map fun i =>
    ⟨.exact, String.ofList (List.replicate (i + 1) 'x'), "1"⟩

theorem methodMatch_withinLimits : RouteMatch.WithinLimits methodMatch :=
  ⟨by decide +kernel, by decide, by decide⟩

theorem headersMatch_withinLimits {n : ℕ} (hn : n ≤ 16) :
    RouteMatch.WithinLimits (headersMatch n) := by
  refine ⟨?_, ?_, Nat.zero_le _⟩
  · intro pm hpm
    cases hpm
    decide +kernel
  · simpa [headersMatch] using hn

/-- Nine headers stay below a method. -/
theorem method_beats_nine_headers :
    computePriority { routeMatches := [methodMatch] } >
      computePriority { routeMatches := [headersMatch 9] } := by
  have hbounded : (matchSpecificity methodMatch).Bounded :=
    ⟨by decide +kernel, by decide, by decide⟩
  have hbounded' : (matchSpecificity (headersMatch 9)).Bounded :=
    ⟨by decide +kernel, by decide, by decide⟩
  have hmatch : (RouteRule.routeMatches { routeMatches := [methodMatch] }) = [methodMatch] := rfl
  have hmatch' : (RouteRule.routeMatches { routeMatches := [headersMatch 9] }) = [headersMatch 9] :=
    rfl
  have horder := (priority_order_iff hmatch hmatch' methodMatch_withinLimits
    (headersMatch_withinLimits (by decide))).mpr ⟨hbounded.not_overtakes, hbounded'.not_overtakes⟩
  exact horder.1.mpr (by decide +kernel)

/-- Sixteen headers score more than a method, although the method decides first. -/
theorem sixteen_headers_beat_method :
    RouteMatch.WithinLimits methodMatch ∧ RouteMatch.WithinLimits (headersMatch 16) ∧
      (matchSpecificity methodMatch).key > (matchSpecificity (headersMatch 16)).key ∧
      computePriority { routeMatches := [headersMatch 16] } >
        computePriority { routeMatches := [methodMatch] } :=
  ⟨methodMatch_withinLimits, headersMatch_withinLimits le_rfl, by decide +kernel, by decide +kernel⟩

end SingleMatch

section Examples

def shopMatch : RouteMatch where
  path := some ⟨.pathPrefix, "/shop"⟩

def rootMatch : RouteMatch where
  path := some ⟨.pathPrefix, "/"⟩

def adminMatch : RouteMatch where
  path := some ⟨.exact, "/admin"⟩

def shopRequest : Request where
  method := "GET"
  host := "shop.example.com"
  path := "/shop/cart"
  header _ := []
  query _ := []

/-- The second rule's exact arm does not match the request. -/
def liftedConfig : Config where
  version := 1
  rules := [{ routeMatches := [shopMatch] }, { routeMatches := [rootMatch, adminMatch] }]

/-- The request's best match belongs to the first rule, yet the second is chosen. -/
theorem unsatisfied_match_lifts_rule :
    ∃ table, compileRoutingTable .literal .stable liftedConfig = .ok table ∧
      (route .literal table (fun _ => 0) shopRequest).map (·.ruleIndex) = some 1 ∧
      satisfied .literal shopRequest shopMatch = true ∧
      ∀ m ∈ [rootMatch, adminMatch], satisfied .literal shopRequest m = true →
        (matchSpecificity m).key < (matchSpecificity shopMatch).key := by
  have hrun : (compileRoutingTable .literal .stable liftedConfig).toOption.bind
      (fun table => (route .literal table (fun _ => 0) shopRequest).map (·.ruleIndex)) =
        some 1 := by decide +kernel
  obtain ⟨table, htable, hroute⟩ := Option.bind_eq_some_iff.mp hrun
  refine ⟨table, (toOption_eq_some _ _).mp htable, hroute, by decide +kernel, ?_⟩
  decide +kernel

/-- The same two rules with the exact arm on the more specific one. -/
def arrangedConfig : Config where
  version := 1
  rules := [{ routeMatches := [rootMatch] }, { routeMatches := [shopMatch, adminMatch] }]

theorem arranged_not_root :
    ∃ table, compileRoutingTable .literal .stable arrangedConfig = .ok table ∧
      ∀ rand result, route .literal table rand shopRequest = some result →
        result.ruleIndex ≠ 0 := by
  have hcompile : ∃ table, compileRoutingTable .literal .stable arrangedConfig = .ok table := by
    have hsome : (compileRoutingTable .literal .stable arrangedConfig).toOption.isSome = true := by
      decide +kernel
    obtain ⟨table, htable⟩ := Option.isSome_iff_exists.mp hsome
    exact ⟨table, (toOption_eq_some _ _).mp htable⟩
  obtain ⟨table, htable⟩ := hcompile
  refine ⟨table, htable, ?_⟩
  intro rand result hroute
  refine route_respects_combined_precedence .literal arrangedConfig shopRequest htable
    (a := 0) (b := 1) rfl rfl (fun bucket hbucket => ?_) ?_ ⟨shopMatch, ?_, ?_⟩ ?_ rand result hroute
  · cases bucket <;> simp_all [InBucket]
  · intro m hm
    rw [List.mem_singleton.mp hm]
    exact ⟨by decide +kernel, by decide, by decide⟩
  · exact List.mem_cons_self
  · decide +kernel
  · decide +kernel

end Examples

end TunnelGateway.MatchPrecedence
