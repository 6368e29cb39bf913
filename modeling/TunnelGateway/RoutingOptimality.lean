import TunnelGateway.Router
import Mathlib.Data.Prod.Lex

/-!
Which rule the router picks. The declarative side speaks about the
configuration only: a candidate is a rule together with the hostname bucket in
which it can serve the request, and candidates are ordered lexicographically.
The compiled table lists its rules in the order in which it tries them; that
list is sorted by the candidate order and contains exactly the candidates, so
the first rule that fires is the maximum.
-/
namespace TunnelGateway.RoutingOptimality

open GoText Fallible ProxyConfig Matcher Router

inductive Bucket where
  | exact
  | wildcard (suffix : String)
  | default
  deriving DecidableEq

def Bucket.tier : Bucket → ℕ
  | .exact => 2
  | .wildcard _ => 1
  | .default => 0

def Bucket.suffixLen : Bucket → ℕ
  | .wildcard suffix => len suffix
  | _ => 0

/-- Larger is preferred: bucket tier, suffix length, priority, then the earlier rule. -/
def rank (bucket : Bucket) (priority index : ℕ) : ℕ ×ₗ ℕ ×ₗ ℕ ×ₗ ℕᵒᵈ :=
  toLex (bucket.tier, toLex (bucket.suffixLen, toLex (priority, OrderDual.toDual index)))

structure Candidate where
  bucket : Bucket
  index : ℕ
  rule : RouteRule

def Candidate.rank (c : Candidate) : ℕ ×ₗ ℕ ×ₗ ℕ ×ₗ ℕᵒᵈ :=
  RoutingOptimality.rank c.bucket (computePriority c.rule) c.index

section Specification

variable (lib : GoLib)

/-- A rule lists a hostname that puts it in the bucket for this host. -/
def InBucket (host : String) (rule : RouteRule) : Bucket → Prop
  | .exact => ∃ hostname ∈ rule.hostnames, toLower lib hostname = host
  | .wildcard suffix =>
      (∃ hostname ∈ rule.hostnames,
        hasPrefix (toLower lib hostname) "*." = true ∧
        sliceFrom (toLower lib hostname) 1 = suffix) ∧
      suffix.toList <:+ host.toList ∧ suffix ≠ host
  | .default => rule.hostnames = []

def RuleSatisfied (req : Request) (rule : RouteRule) : Prop :=
  rule.routeMatches = [] ∨ ∃ m ∈ rule.routeMatches, satisfied lib req m = true

structure IsCandidate (cfg : Config) (req : Request) (c : Candidate) : Prop where
  listed : cfg.rules[c.index]? = some c.rule
  inBucket : InBucket lib (extractHost lib req) c.rule c.bucket
  satisfied : RuleSatisfied lib req c.rule

end Specification

theorem matchesWildcard_iff (host suffix : String) :
    matchesWildcard host suffix = true ↔ suffix.toList <:+ host.toList ∧ suffix ≠ host := by
  unfold matchesWildcard
  rw [Bool.and_eq_true, hasSuffix_iff, decide_eq_true_eq]
  constructor
  · rintro ⟨hsuf, hlt⟩
    exact ⟨hsuf, (len_lt_iff_ne_of_suffix hsuf).mp hlt⟩
  · rintro ⟨hsuf, hne⟩
    exact ⟨hsuf, (len_lt_iff_ne_of_suffix hsuf).mpr hne⟩

section Attempts

/-- The rule fires on the request. -/
def fires (req : Request) (compiled : CompiledRule) : Bool :=
  (findMatchingIndex compiled req).isSome

/-- The rules of a table in the order in which a lookup of `host` tries them. -/
def attempts (table : RoutingTable) (host : String) : List (Bucket × CompiledRule) :=
  ((table.exactHosts.lookup host).getD []).map (Prod.mk .exact) ++
  ((table.wildcardHosts.filter (matchesWildcard host ·.suffix)).flatMap fun entry =>
    entry.rules.map (Prod.mk (.wildcard entry.suffix))) ++
  table.defaultRules.map (Prod.mk .default)

/-- The rule a result points to. -/
def target (result : RouteResult) : ℕ × RouteRule := (result.ruleIndex, result.rule)

def compiledTarget (compiled : CompiledRule) : ℕ × RouteRule := (compiled.ruleIndex, compiled.rule)

variable (lib : GoLib) (rand : ℕ → ℕ) (req : Request)

/-- The hostname pattern a result names for its bucket. -/
def Bucket.label (host : String) : Bucket → String
  | .exact => host
  | .wildcard suffix => "*" ++ suffix
  | .default => ""

/-- The result of an attempt that fires. -/
def attemptResult (host : String) (attempt : Bucket × CompiledRule) : Option RouteResult :=
  (findMatchingIndex attempt.2 req).map fun matchIdx =>
    { ruleResult rand attempt.2 matchIdx with matchedHostname := attempt.1.label host }

private theorem matchRules_tagged (host : String) (bucket : Bucket) (rules : List CompiledRule) :
    (matchRules rand req rules).map (fun result =>
        { result with matchedHostname := bucket.label host }) =
      (rules.map (Prod.mk bucket)).findSome? (attemptResult rand req host) := by
  induction rules with
  | nil => rfl
  | cons compiled rest ih =>
    rw [matchRules, List.map_cons]
    cases hidx : findMatchingIndex compiled req with
    | some matchIdx => simp [attemptResult, hidx]
    | none => simpa [attemptResult, hidx] using ih

private theorem routeWildcard_tagged (host : String) (entries : List WildcardEntry) :
    routeWildcard rand req host entries =
      ((entries.filter (matchesWildcard host ·.suffix)).flatMap fun entry =>
        entry.rules.map (Prod.mk (Bucket.wildcard entry.suffix))).findSome?
          (attemptResult rand req host) := by
  induction entries with
  | nil => rfl
  | cons entry rest ih =>
    rw [routeWildcard]
    by_cases hm : matchesWildcard host entry.suffix = true
    · have hrules := matchRules_tagged rand req host (.wildcard entry.suffix) entry.rules
      simp only [hm, if_true, List.filter_cons]
      rw [List.flatMap_cons, List.findSome?_append, ← hrules, ← ih]
      cases matchRules rand req entry.rules with
      | some result => rfl
      | none => simp
    · simp only [hm, List.filter_cons]
      exact ih

theorem matchedHostname_matchRules {rules : List CompiledRule} {result : RouteResult}
    (h : matchRules rand req rules = some result) : result.matchedHostname = "" := by
  induction rules with
  | nil => cases h
  | cons compiled rest ih =>
    rw [matchRules] at h
    split at h
    · cases h
      rfl
    · exact ih h

/-- A lookup returns the result of the first attempt that has one. -/
theorem route_eq_findSome (table : RoutingTable) :
    route lib table rand req =
      (attempts table (extractHost lib req)).findSome?
        (attemptResult rand req (extractHost lib req)) := by
  rw [route, attempts, List.findSome?_append, List.findSome?_append, ← matchRules_tagged,
    ← matchRules_tagged, ← routeWildcard_tagged]
  have hexact : ((table.exactHosts.lookup (extractHost lib req)).bind (matchRules rand req)) =
      matchRules rand req ((table.exactHosts.lookup (extractHost lib req)).getD []) := by
    cases table.exactHosts.lookup (extractHost lib req) <;> rfl
  rw [hexact]
  cases matchRules rand req ((table.exactHosts.lookup (extractHost lib req)).getD []) with
  | some result => simp [Bucket.label]
  | none =>
    cases routeWildcard rand req (extractHost lib req) table.wildcardHosts with
    | some result => simp
    | none =>
      cases hdefault : matchRules rand req table.defaultRules with
      | none => simp
      | some result =>
        have hlabel := matchedHostname_matchRules rand req hdefault
        simp [Bucket.label, ← hlabel]

/-- A lookup returns the rule of the first attempt that fires. -/
theorem route_target (table : RoutingTable) :
    (route lib table rand req).map target =
      ((attempts table (extractHost lib req)).find? (fun a => fires req a.2)).map
        (fun a => compiledTarget a.2) := by
  rw [route_eq_findSome]
  induction attempts table (extractHost lib req) with
  | nil => rfl
  | cons attempt rest ih =>
    cases hidx : findMatchingIndex attempt.2 req with
    | some matchIdx => simp [attemptResult, fires, hidx, target, compiledTarget, ruleResult]
    | none => simpa [attemptResult, fires, hidx] using ih

end Attempts

section Order

theorem rank_lt_of_tier_lt {b b' : Bucket} (h : b'.tier < b.tier) (p i p' i' : ℕ) :
    rank b' p' i' < rank b p i := by
  simp only [rank, Prod.Lex.toLex_lt_toLex]
  exact Or.inl h

theorem rank_lt_of_suffixLen_lt {s s' : String} (h : len s' < len s) (p i p' i' : ℕ) :
    rank (.wildcard s') p' i' < rank (.wildcard s) p i := by
  simp only [rank, Prod.Lex.toLex_lt_toLex]
  exact Or.inr ⟨rfl, Or.inl h⟩

instance : Std.Total precedes where
  total a b := by
    unfold precedes
    omega

instance : IsTrans CompiledRule precedes where
  trans a b c := by
    unfold precedes
    omega

/-- Attempts are tried in non-increasing rank. -/
def TriedBefore (a b : Bucket × CompiledRule) : Prop :=
  rank b.1 b.2.priority b.2.ruleIndex ≤ rank a.1 a.2.priority a.2.ruleIndex

theorem sortRulesByPrecedence_tagged (bucket : Bucket) (rules : List CompiledRule) :
    ((sortRulesByPrecedence rules).map (Prod.mk bucket)).Pairwise TriedBefore := by
  rw [List.pairwise_map]
  refine (List.pairwise_insertionSort precedes rules).imp fun h => ?_
  simp only [TriedBefore, rank, Prod.Lex.toLex_le_toLex, OrderDual.toDual_le_toDual, true_and]
  unfold precedes at h
  omega

end Order

section Compiled

variable (lib : GoLib) (order : WildcardOrder) (version : ℤ) (compiled : List CompiledRule)
  (host : String)

/-- Where the compiler files a rule: like `InBucket`, but a wildcard hostname is
never filed under the exact hosts. -/
def Filed (rule : RouteRule) : Bucket → Prop
  | .exact => ∃ hostname ∈ rule.hostnames,
      hasPrefix (toLower lib hostname) "*." = false ∧ toLower lib hostname = host
  | bucket => InBucket lib host rule bucket

theorem mem_exactKeys (key : String) (c c' : CompiledRule) :
    (key, c) ∈ exactKeys lib c' ↔ c = c' ∧ ∃ hostname ∈ c.rule.hostnames,
      hasPrefix (toLower lib hostname) "*." = false ∧ toLower lib hostname = key := by
  simp only [exactKeys, List.mem_filterMap, Option.ite_none_left_eq_some, Option.some.injEq,
    Prod.mk.injEq]
  constructor
  · intro h
    obtain ⟨hostname, hmem, hpre, hkey, hc⟩ := h
    subst hc
    exact ⟨rfl, hostname, hmem, by simpa using hpre, hkey⟩
  · intro h
    obtain ⟨hc, hostname, hmem, hpre, hkey⟩ := h
    subst hc
    exact ⟨hostname, hmem, by simpa using hpre, hkey, rfl⟩

theorem mem_wildcardKeys (key : String) (c c' : CompiledRule) :
    (key, c) ∈ wildcardKeys lib c' ↔ c = c' ∧ ∃ hostname ∈ c.rule.hostnames,
      hasPrefix (toLower lib hostname) "*." = true ∧ sliceFrom (toLower lib hostname) 1 = key := by
  simp only [wildcardKeys, List.mem_filterMap, Option.ite_none_right_eq_some, Option.some.injEq,
    Prod.mk.injEq]
  constructor
  · intro h
    obtain ⟨hostname, hmem, hpre, hkey, hc⟩ := h
    subst hc
    exact ⟨rfl, hostname, hmem, hpre, hkey⟩
  · intro h
    obtain ⟨hc, hostname, hmem, hpre, hkey⟩ := h
    subst hc
    exact ⟨hostname, hmem, hpre, hkey, rfl⟩

theorem lookup_exactHosts :
    ((buildTable lib order version compiled).exactHosts.lookup host).getD [] =
      sortRulesByPrecedence
        (SortedBuckets.valuesOf host (compiled.flatMap (exactKeys lib))) := by
  exact SortedBuckets.getD_lookup_map_group sortRulesByPrecedence rfl _ host

theorem mem_wildcardHosts (entry : WildcardEntry) :
    entry ∈ (buildTable lib order version compiled).wildcardHosts ↔
      entry.rules = sortRulesByPrecedence
        (SortedBuckets.valuesOf entry.suffix (compiled.flatMap (wildcardKeys lib))) ∧
      ∃ c, (entry.suffix, c) ∈ compiled.flatMap (wildcardKeys lib) := by
  rw [buildTable, (order.perm _).mem_iff, List.mem_map]
  constructor
  · intro h
    obtain ⟨bucket, hmem, hentry⟩ := h
    subst hentry
    have hgroup := (SortedBuckets.mem_group_iff _ bucket.1 bucket.2).mp hmem
    exact ⟨by rw [← hgroup.1], hgroup.2⟩
  · intro h
    have hgroup := (SortedBuckets.mem_group_iff _ entry.suffix _).mpr ⟨rfl, h.2⟩
    refine ⟨_, hgroup, ?_⟩
    rw [← h.1]

theorem mem_sorted_values (keys : CompiledRule → List (String × CompiledRule)) (key : String)
    (c : CompiledRule) :
    c ∈ sortRulesByPrecedence (SortedBuckets.valuesOf key (compiled.flatMap keys)) ↔
      ∃ c' ∈ compiled, (key, c) ∈ keys c' := by
  rw [sortRulesByPrecedence, List.mem_insertionSort, SortedBuckets.mem_valuesOf,
    List.mem_flatMap]

private theorem mem_tagged (tag bucket : Bucket) (rules : List CompiledRule) (c : CompiledRule) :
    (bucket, c) ∈ rules.map (Prod.mk tag) ↔ bucket = tag ∧ c ∈ rules := by
  simp only [List.mem_map, Prod.mk.injEq]
  constructor
  · intro h
    obtain ⟨c', hc', htag, rfl⟩ := h
    exact ⟨htag.symm, hc'⟩
  · intro h
    exact ⟨c, h.2, h.1.symm, rfl⟩

/-- The attempts of a lookup are the rules filed for the host. -/
theorem mem_attempts (bucket : Bucket) (c : CompiledRule) :
    (bucket, c) ∈ attempts (buildTable lib order version compiled) host ↔
      c ∈ compiled ∧ Filed lib host c.rule bucket := by
  rw [attempts, List.mem_append, List.mem_append, lookup_exactHosts, mem_tagged,
    mem_sorted_values, List.mem_flatMap]
  simp only [mem_exactKeys, mem_tagged, List.mem_filter, mem_wildcardHosts, matchesWildcard_iff]
  cases bucket with
  | exact =>
    constructor
    · intro h
      rcases h with (⟨-, c', hc', rfl, hfiled⟩ | ⟨entry, -, htag, -⟩) | ⟨htag, -⟩
      · exact ⟨hc', hfiled⟩
      · cases htag
      · cases htag
    · intro h
      exact Or.inl (Or.inl ⟨rfl, c, h.1, rfl, h.2⟩)
  | wildcard suffix =>
    constructor
    · intro h
      rcases h with (⟨htag, -⟩ | ⟨entry, ⟨⟨hrules, -⟩, hsuf⟩, htag, hc⟩) | ⟨htag, -⟩
      · cases htag
      · cases htag
        rw [hrules, mem_sorted_values] at hc
        obtain ⟨c', hc', hkey⟩ := hc
        obtain ⟨rfl, hlisted⟩ := (mem_wildcardKeys lib _ _ _).mp hkey
        exact ⟨hc', hlisted, hsuf⟩
      · cases htag
    · intro h
      obtain ⟨hc, hlisted, hsuf⟩ := h
      have hkey : (suffix, c) ∈ wildcardKeys lib c :=
        (mem_wildcardKeys lib _ _ _).mpr ⟨rfl, hlisted⟩
      let rules := sortRulesByPrecedence
        (SortedBuckets.valuesOf suffix (compiled.flatMap (wildcardKeys lib)))
      have hrules : c ∈ rules := (mem_sorted_values compiled _ _ _).mpr ⟨c, hc, hkey⟩
      have hpresent : (suffix, c) ∈ compiled.flatMap (wildcardKeys lib) :=
        List.mem_flatMap.mpr ⟨c, hc, hkey⟩
      exact Or.inl (Or.inr ⟨⟨suffix, rules⟩, ⟨⟨rfl, c, hpresent⟩, hsuf⟩, rfl, hrules⟩)
  | default =>
    have hdefault : c ∈ (buildTable lib order version compiled).defaultRules ↔
        c ∈ compiled ∧ c.rule.hostnames = [] := by
      simp [buildTable, sortRulesByPrecedence]
    rw [hdefault]
    constructor
    · intro h
      rcases h with (⟨htag, -⟩ | ⟨entry, -, htag, -⟩) | ⟨-, hfiled⟩
      · cases htag
      · cases htag
      · exact hfiled
    · intro h
      exact Or.inr ⟨rfl, h⟩

private theorem wildcardHosts_suffix_ne :
    (buildTable lib order version compiled).wildcardHosts.Pairwise
      (fun a b => a.suffix ≠ b.suffix) := by
  refine (order.perm _).symm.pairwise ?_ Ne.symm
  rw [List.pairwise_map]
  have hnodup := (SortedBuckets.group_represents (compiled.flatMap (wildcardKeys lib))).nodup
  rw [List.Nodup, List.pairwise_map] at hnodup
  exact hnodup

private theorem wildcardHosts_shorter :
    ((buildTable lib order version compiled).wildcardHosts.filter
      (matchesWildcard host ·.suffix)).Pairwise (fun a b => len b.suffix < len a.suffix) := by
  have hsorted : (buildTable lib order version compiled).wildcardHosts.Pairwise
      (fun a b => len b.suffix ≤ len a.suffix) := order.sorted _
  have hboth := (hsorted.and (wildcardHosts_suffix_ne lib order version compiled)).filter
    (matchesWildcard host ·.suffix)
  refine hboth.imp_of_mem ?_
  intro a b ha hb h
  have hsa := ((matchesWildcard_iff host a.suffix).mp (List.mem_filter.mp ha).2).1
  have hsb := ((matchesWildcard_iff host b.suffix).mp (List.mem_filter.mp hb).2).1
  rcases Nat.lt_or_eq_of_le h.1 with hlt | heq
  · exact hlt
  · exact absurd (eq_of_suffixes_of_len_eq hsb hsa heq).symm h.2

theorem attempts_pairwise :
    (attempts (buildTable lib order version compiled) host).Pairwise TriedBefore := by
  rw [attempts, lookup_exactHosts, List.pairwise_append, List.pairwise_append]
  refine ⟨⟨sortRulesByPrecedence_tagged _ _, ?_, ?_⟩, sortRulesByPrecedence_tagged _ _, ?_⟩
  · rw [List.pairwise_flatMap]
    constructor
    · intro entry hentry
      have hmem := (mem_wildcardHosts lib order version compiled entry).mp
        (List.mem_of_mem_filter hentry)
      rw [hmem.1]
      exact sortRulesByPrecedence_tagged _ _
    · refine (wildcardHosts_shorter lib order version compiled host).imp ?_
      intro e e' hlt a ha b hb
      obtain ⟨ca, -, rfl⟩ := List.mem_map.mp ha
      obtain ⟨cb, -, rfl⟩ := List.mem_map.mp hb
      exact (rank_lt_of_suffixLen_lt hlt _ _ _ _).le
  · intro a ha b hb
    obtain ⟨ca, -, rfl⟩ := List.mem_map.mp ha
    obtain ⟨entry, -, hb⟩ := List.mem_flatMap.mp hb
    obtain ⟨cb, -, rfl⟩ := List.mem_map.mp hb
    have htier : (Bucket.wildcard entry.suffix).tier < Bucket.exact.tier := Nat.one_lt_two
    exact (rank_lt_of_tier_lt htier _ _ _ _).le
  · intro a ha b hb
    obtain ⟨cb, -, rfl⟩ := List.mem_map.mp hb
    rcases List.mem_append.mp ha with ha | ha
    · obtain ⟨ca, -, rfl⟩ := List.mem_map.mp ha
      have htier : Bucket.default.tier < Bucket.exact.tier := Nat.zero_lt_two
      exact (rank_lt_of_tier_lt htier _ _ _ _).le
    · obtain ⟨entry, -, ha⟩ := List.mem_flatMap.mp ha
      obtain ⟨ca, -, rfl⟩ := List.mem_map.mp ha
      have htier : Bucket.default.tier < (Bucket.wildcard entry.suffix).tier := Nat.zero_lt_one
      exact (rank_lt_of_tier_lt htier _ _ _ _).le

end Compiled

section CompiledRules

variable (lib : GoLib) (req : Request)

private theorem findMatchingIndex_isSome (c : CompiledRule) :
    fires req c = (c.routeMatches.isEmpty || c.routeMatches.any (·.matchesRequest req)) := by
  unfold fires findMatchingIndex
  cases hempty : c.routeMatches.isEmpty <;> simp

/-- What compilation keeps of a rule. -/
structure CompiledFrom (idx : ℕ) (rule : RouteRule) (c : CompiledRule) : Prop where
  rule_eq : c.rule = rule
  index_eq : c.ruleIndex = idx
  priority_eq : c.priority = computePriority rule
  fires_iff : fires req c = true ↔ RuleSatisfied lib req rule

theorem compiledFrom_of_compileRule {idx : ℕ} {rule : RouteRule} {c : CompiledRule}
    (h : compileRule lib idx rule = .ok c) : CompiledFrom lib req idx rule c := by
  obtain ⟨routeMatches, hmatches, h⟩ := (bind_eq_ok _ _ _).mp h
  obtain ⟨filters, -, h⟩ := (bind_eq_ok _ _ _).mp h
  obtain ⟨backendFilters, -, h⟩ := (bind_eq_ok _ _ _).mp h
  cases h
  refine ⟨rfl, rfl, rfl, ?_⟩
  have hempty : routeMatches = [] ↔ rule.routeMatches = [] := by
    rw [← List.length_eq_zero_iff, ← List.length_eq_zero_iff,
      length_of_forEach_eq_ok _ _ _ _ hmatches]
  have hany := any_of_forEach_eq_ok _ _ (·.matchesRequest req) (satisfied lib req)
    (fun _ m cm hcm => compileMatch_matches lib req m cm hcm) _ _ hmatches
  rw [findMatchingIndex_isSome, RuleSatisfied, Bool.or_eq_true, List.isEmpty_iff, hempty, hany,
    List.any_eq_true]

/-- The compiled rules are the rules of the configuration, by position. -/
theorem mem_compiled {cfg : Config} {compiled : List CompiledRule}
    (h : forEach (indexed "rule") (compileRule lib) cfg.rules = .ok compiled) :
    (∀ c ∈ compiled, cfg.rules[c.ruleIndex]? = some c.rule ∧
      CompiledFrom lib req c.ruleIndex c.rule c) ∧
    (∀ idx rule, cfg.rules[idx]? = some rule → ∃ c ∈ compiled, c.ruleIndex = idx ∧ c.rule = rule) := by
  have hmem := mem_of_forEach_eq_ok _ _ _ _ h
  constructor
  · intro c hc
    obtain ⟨idx, rule, hrule, hcompile⟩ := (hmem c).mp hc
    have hfrom := compiledFrom_of_compileRule lib req hcompile
    rw [hfrom.index_eq, hfrom.rule_eq]
    exact ⟨hrule, hfrom⟩
  · intro idx rule hrule
    have hok := (forEach_isOk_iff (indexed "rule") (compileRule lib) cfg.rules).mp ⟨compiled, h⟩
    obtain ⟨c, hcompile⟩ := hok (rule, idx) (List.mk_mem_zipIdx_iff_getElem?.mpr hrule)
    have hfrom := compiledFrom_of_compileRule lib req hcompile
    exact ⟨c, (hmem c).mpr ⟨idx, rule, hrule, hcompile⟩, hfrom.index_eq, hfrom.rule_eq⟩

end CompiledRules

section WildcardHost

private theorem toList_of_wildcard {s : String} (h : hasPrefix s "*." = true) :
    ∃ rest, s.toList = '*' :: '.' :: rest := by
  obtain ⟨rest, hrest⟩ := (hasPrefix_iff s "*.").mp h
  exact ⟨rest, hrest.symm⟩

/-- Dropping the star of a wildcard pattern loses nothing. -/
theorem wildcard_eq_of_sliceFrom_eq {s t : String} (hs : hasPrefix s "*." = true)
    (ht : hasPrefix t "*." = true) (h : sliceFrom s 1 = sliceFrom t 1) : s = t := by
  obtain ⟨rs, hrs⟩ := toList_of_wildcard hs
  obtain ⟨rt, hrt⟩ := toList_of_wildcard ht
  have hlist : (sliceFrom s 1).toList = (sliceFrom t 1).toList := by rw [h]
  rw [toList_sliceFrom, toList_sliceFrom, hrs, hrt] at hlist
  apply String.toList_inj.mp
  rw [hrs, hrt]
  simpa using hlist

/-- Among the proper suffixes of a host `*.x` the longest is `.x`. -/
theorem sliceFrom_longest {host : String} (h : hasPrefix host "*." = true) :
    (sliceFrom host 1).toList <:+ host.toList ∧ sliceFrom host 1 ≠ host ∧
    ∀ s : String, s.toList <:+ host.toList → s ≠ host → len s ≤ len (sliceFrom host 1) := by
  obtain ⟨rest, hrest⟩ := toList_of_wildcard h
  have hsuf : (sliceFrom host 1).toList <:+ host.toList := by
    rw [toList_sliceFrom]
    exact List.drop_suffix 1 host.toList
  have hstar : host = "*" ++ sliceFrom host 1 := by
    apply String.toList_inj.mp
    rw [String.toList_append, toList_sliceFrom, hrest]
    simp
  have hlen : len host = 1 + len (sliceFrom host 1) := by
    have hcongr := congrArg len hstar
    rw [len_append] at hcongr
    exact hcongr
  refine ⟨hsuf, ?_, ?_⟩
  · intro heq
    rw [heq] at hlen
    omega
  · intro s hs hne
    have hlt := (len_lt_iff_ne_of_suffix hs).mpr hne
    omega

end WildcardHost

section Optimality

variable (lib : GoLib) (cfg : Config) (req : Request)

/-- A candidate as the compiled table files it. -/
structure FiledCandidate (c : Candidate) : Prop where
  listed : cfg.rules[c.index]? = some c.rule
  filed : Filed lib (extractHost lib req) c.rule c.bucket
  satisfied : RuleSatisfied lib req c.rule

variable {c : Candidate} {table : RoutingTable} {order : WildcardOrder}

theorem FiledCandidate.isCandidate (h : FiledCandidate lib cfg req c) :
    IsCandidate lib cfg req c := by
  obtain ⟨bucket, index, rule⟩ := c
  refine ⟨h.listed, ?_, h.satisfied⟩
  have hfiled := h.filed
  cases bucket with
  | exact =>
    obtain ⟨hostname, hmem, -, heq⟩ := hfiled
    exact ⟨hostname, hmem, heq⟩
  | wildcard suffix => exact hfiled
  | default => exact hfiled

/-- A candidate is filed as it stands, except that a wildcard hostname equal to
the host itself is filed under its suffix. -/
theorem IsCandidate.filed_or (h : IsCandidate lib cfg req c) :
    FiledCandidate lib cfg req c ∨
    (c.bucket = .exact ∧ hasPrefix (extractHost lib req) "*." = true ∧
      FiledCandidate lib cfg req
        ⟨.wildcard (sliceFrom (extractHost lib req) 1), c.index, c.rule⟩) := by
  obtain ⟨bucket, index, rule⟩ := c
  have hbucket := h.inBucket
  cases bucket with
  | exact =>
    obtain ⟨hostname, hmem, heq⟩ := hbucket
    cases hpre : hasPrefix (extractHost lib req) "*." with
    | false => exact Or.inl ⟨h.listed, ⟨hostname, hmem, by rw [heq]; exact hpre, heq⟩, h.satisfied⟩
    | true =>
      obtain ⟨hsuf, hne, -⟩ := sliceFrom_longest hpre
      have hlisted : ∃ hn ∈ rule.hostnames, hasPrefix (toLower lib hn) "*." = true ∧
          sliceFrom (toLower lib hn) 1 = sliceFrom (extractHost lib req) 1 :=
        ⟨hostname, hmem, by rw [heq]; exact hpre, by rw [heq]⟩
      exact Or.inr ⟨rfl, rfl, h.listed, ⟨hlisted, hsuf, hne⟩, h.satisfied⟩
  | wildcard suffix => exact Or.inl ⟨h.listed, hbucket, h.satisfied⟩
  | default => exact Or.inl ⟨h.listed, hbucket, h.satisfied⟩

/-- Candidates for one request are determined by their rank. -/
theorem candidate_eq_of_rank_eq {d : Candidate} (hc : IsCandidate lib cfg req c)
    (hd : IsCandidate lib cfg req d) (h : c.rank = d.rank) : c = d := by
  obtain ⟨bc, ic, rc⟩ := c
  obtain ⟨bd, id, rd⟩ := d
  simp only [Candidate.rank, rank, toLex_inj, Prod.mk.injEq] at h
  obtain ⟨htier, hlen, -, hindex⟩ := h
  obtain rfl : ic = id := hindex
  have hrule : rc = rd := Option.some.inj (hc.listed.symm.trans hd.listed)
  have hbucket : bc = bd := by
    have hbc := hc.inBucket
    have hbd := hd.inBucket
    cases bc with
    | exact => cases bd <;> simp_all [Bucket.tier]
    | wildcard suffix =>
      cases bd with
      | exact => simp [Bucket.tier] at htier
      | wildcard suffix' => rw [eq_of_suffixes_of_len_eq hbc.2.1 hbd.2.1 hlen]
      | default => simp [Bucket.tier] at htier
    | default => cases bd <;> simp_all [Bucket.tier]
  rw [hrule, hbucket]

/-- The table yields the best filed candidate. -/
theorem route_filed (h : compileRoutingTable lib order cfg = .ok table) (rand : ℕ → ℕ) :
    (route lib table rand req = none → ∀ c, ¬ FiledCandidate lib cfg req c) ∧
    (∀ result, route lib table rand req = some result →
      ∃ c, FiledCandidate lib cfg req c ∧ target result = (c.index, c.rule) ∧
        ∀ c', FiledCandidate lib cfg req c' → c'.rank ≤ c.rank) := by
  obtain ⟨compiled, hcompiled, htable⟩ := (bind_eq_ok _ _ _).mp h
  cases htable
  obtain ⟨hfrom, hcover⟩ := mem_compiled lib req hcompiled
  have htarget := route_target lib rand req (buildTable lib order cfg.version compiled)
  have hattempt : ∀ c, FiledCandidate lib cfg req c → ∃ d,
      (c.bucket, d) ∈ attempts (buildTable lib order cfg.version compiled) (extractHost lib req) ∧
      d.rule = c.rule ∧ fires req d = true ∧ rank c.bucket d.priority d.ruleIndex = c.rank := by
    intro c hc
    obtain ⟨d, hd, hindex, hrule⟩ := hcover c.index c.rule hc.listed
    have hd' := (hfrom d hd).2
    refine ⟨d, (mem_attempts lib order cfg.version compiled _ _ _).mpr ⟨hd, ?_⟩, hrule, ?_, ?_⟩
    · rw [hrule]
      exact hc.filed
    · rw [hd'.fires_iff, hrule]
      exact hc.satisfied
    · rw [Candidate.rank, hd'.priority_eq, hrule, hindex]
  constructor
  · intro hnone c hc
    obtain ⟨d, hmem, -, hfires, -⟩ := hattempt c hc
    rw [hnone, Option.map_none, eq_comm, Option.map_eq_none_iff, List.find?_eq_none] at htarget
    exact htarget (c.bucket, d) hmem hfires
  · intro result hresult
    rw [hresult, Option.map_some, eq_comm, Option.map_eq_some_iff] at htarget
    obtain ⟨⟨bucket, d⟩, hfind, hd⟩ := htarget
    have hmem := List.mem_of_find?_eq_some hfind
    have hfires : fires req d = true :=
      List.find?_some (p := fun a : Bucket × CompiledRule => fires req a.2) hfind
    obtain ⟨hdmem, hfiled⟩ := (mem_attempts lib order cfg.version compiled _ _ _).mp hmem
    obtain ⟨hlisted, hdfrom⟩ := hfrom d hdmem
    refine ⟨⟨bucket, d.ruleIndex, d.rule⟩, ⟨hlisted, hfiled, hdfrom.fires_iff.mp hfires⟩,
      hd.symm, ?_⟩
    intro c' hc'
    obtain ⟨d', hmem', hrule', hfires', hrank'⟩ := hattempt c' hc'
    have hbest := SortedBuckets.find?_best
      (attempts_pairwise lib order cfg.version compiled _) hfind _ hmem' hfires'
    have hrank : rank bucket d.priority d.ruleIndex =
        Candidate.rank ⟨bucket, d.ruleIndex, d.rule⟩ := by
      rw [Candidate.rank, hdfrom.priority_eq]
    rw [← hrank', ← hrank]
    rcases hbest with heq | hle
    · cases heq
      exact le_refl _
    · exact hle

/-- The best filed candidate names the best candidate. -/
theorem exists_best_of_filed (hc : FiledCandidate lib cfg req c)
    (hbest : ∀ c', FiledCandidate lib cfg req c' → c'.rank ≤ c.rank) :
    ∃ d, IsCandidate lib cfg req d ∧ (d.index, d.rule) = (c.index, c.rule) ∧
      ∀ c', IsCandidate lib cfg req c' → c'.rank ≤ d.rank := by
  by_cases hself : hasPrefix (extractHost lib req) "*." = true ∧
      c.bucket = .wildcard (sliceFrom (extractHost lib req) 1)
  · obtain ⟨hpre, hbucket⟩ := hself
    have hfiled := hc.filed
    rw [hbucket] at hfiled
    obtain ⟨⟨hostname, hmem, hwild, hslice⟩, -⟩ := hfiled
    have heq := wildcard_eq_of_sliceFrom_eq hwild hpre hslice
    refine ⟨⟨.exact, c.index, c.rule⟩, ⟨hc.listed, ⟨hostname, hmem, heq⟩, hc.satisfied⟩, rfl, ?_⟩
    intro c' hc'
    rcases IsCandidate.filed_or lib cfg req hc' with hfiled' | ⟨hexact, -, hfiled'⟩
    · have htier : c.bucket.tier < Bucket.exact.tier := by
        rw [hbucket]
        exact Nat.one_lt_two
      exact (hbest c' hfiled').trans (rank_lt_of_tier_lt htier _ _ _ _).le
    · have hle := hbest _ hfiled'
      simp only [Candidate.rank, rank, hbucket, hexact, Prod.Lex.toLex_le_toLex, lt_irrefl] at hle ⊢
      exact hle
  · refine ⟨c, FiledCandidate.isCandidate lib cfg req hc, rfl, ?_⟩
    intro c' hc'
    rcases IsCandidate.filed_or lib cfg req hc' with hfiled' | ⟨-, hpre, hfiled'⟩
    · exact hbest c' hfiled'
    · exfalso
      have hle := hbest _ hfiled'
      have hfiled := hc.filed
      obtain ⟨bucket, index, rule⟩ := c
      cases bucket with
      | exact =>
        obtain ⟨hostname, -, hnot, heq⟩ := hfiled
        rw [heq, hpre] at hnot
        cases hnot
      | wildcard suffix =>
        have hlong := (sliceFrom_longest hpre).2.2 suffix hfiled.2.1 hfiled.2.2
        have hshort : len (sliceFrom (extractHost lib req) 1) ≤ len suffix := by
          by_contra hlt
          exact absurd hle (not_le.mpr (rank_lt_of_suffixLen_lt (Nat.lt_of_not_le hlt) _ _ _ _))
        have hsuf := eq_of_suffixes_of_len_eq hfiled.2.1 (sliceFrom_longest hpre).1
          (le_antisymm hlong hshort)
        exact hself ⟨hpre, by rw [hsuf]⟩
      | default =>
        have htier : Bucket.default.tier <
            (Bucket.wildcard (sliceFrom (extractHost lib req) 1)).tier := Nat.zero_lt_one
        exact absurd hle (not_le.mpr (rank_lt_of_tier_lt htier _ _ _ _))

theorem route_best (hcompile : compileRoutingTable lib order cfg = .ok table) (rand : ℕ → ℕ) :
    (route lib table rand req = none ↔ ¬ ∃ c, IsCandidate lib cfg req c) ∧
    (∀ result, route lib table rand req = some result →
      ∃ c, IsCandidate lib cfg req c ∧ c.index = result.ruleIndex ∧ c.rule = result.rule ∧
        ∀ c', IsCandidate lib cfg req c' → c' ≠ c → c'.rank < c.rank) := by
  obtain ⟨hnone, hsome⟩ := route_filed lib cfg req hcompile rand
  have hbest : ∀ result, route lib table rand req = some result →
      ∃ c, IsCandidate lib cfg req c ∧ c.index = result.ruleIndex ∧ c.rule = result.rule ∧
        ∀ c', IsCandidate lib cfg req c' → c' ≠ c → c'.rank < c.rank := by
    intro result hresult
    obtain ⟨c, hc, htarget, hmax⟩ := hsome result hresult
    obtain ⟨d, hd, hdc, hdmax⟩ := exists_best_of_filed lib cfg req hc hmax
    rw [← hdc] at htarget
    obtain ⟨hindex, hrule⟩ := Prod.mk.inj htarget
    refine ⟨d, hd, hindex.symm, hrule.symm, ?_⟩
    intro c' hc' hne
    exact lt_of_le_of_ne (hdmax c' hc')
      (fun heq => hne (candidate_eq_of_rank_eq lib cfg req hc' hd heq))
  refine ⟨?_, hbest⟩
  constructor
  · intro h hex
    obtain ⟨c, hc⟩ := hex
    rcases IsCandidate.filed_or lib cfg req hc with hfiled | ⟨-, -, hfiled⟩ <;> exact hnone h _ hfiled
  · intro hex
    cases hroute : route lib table rand req with
    | none => rfl
    | some result =>
      obtain ⟨c, hc, -⟩ := hbest result hroute
      exact absurd ⟨c, hc⟩ hex

/-- The router returns nothing exactly when no candidate exists, and otherwise
the rule of the unique best candidate, whatever order the wildcard map is ranged
and sorted in. -/
theorem route_returns_best_candidate {order : WildcardOrder} {table : RoutingTable}
    (hcompile : compileRoutingTable lib order cfg = .ok table) (rand : ℕ → ℕ) :
    (route lib table rand req = none ↔ ¬ ∃ c, IsCandidate lib cfg req c) ∧
    (∀ result, route lib table rand req = some result →
      ∃ c, IsCandidate lib cfg req c ∧ c.index = result.ruleIndex ∧ c.rule = result.rule ∧
        ∀ c', IsCandidate lib cfg req c' → c' ≠ c → c'.rank < c.rank) ∧
    (∀ (order' : WildcardOrder) (table' : RoutingTable) (rand' : ℕ → ℕ),
      compileRoutingTable lib order' cfg = .ok table' →
      (route lib table' rand' req).map (·.ruleIndex) =
        (route lib table rand req).map (·.ruleIndex)) := by
  obtain ⟨hnone, hbest⟩ := route_best lib cfg req hcompile rand
  refine ⟨hnone, hbest, ?_⟩
  intro order' table' rand' hcompile'
  obtain ⟨hnone', hbest'⟩ := route_best lib cfg req hcompile' rand'
  cases hroute : route lib table rand req with
  | none => rw [hnone'.mpr (hnone.mp hroute)]
  | some result =>
    cases hroute' : route lib table' rand' req with
    | none =>
      rw [hnone.mpr (hnone'.mp hroute')] at hroute
      cases hroute
    | some result' =>
      obtain ⟨c, hc, hindex, -, hmax⟩ := hbest result hroute
      obtain ⟨c', hc', hindex', -, hmax'⟩ := hbest' result' hroute'
      have heq : c' = c := by
        by_contra hne
        exact lt_asymm (hmax c' hc' hne) (hmax' c hc (Ne.symm hne))
      rw [Option.map_some, Option.map_some, ← hindex, ← hindex', heq]

end Optimality

/-- Three rules around one host: the exact bucket holds a rule that does not
match the request, so the lookup falls through to the wildcard bucket. -/
def fallThroughConfig : Config where
  version := 1
  rules := [
    { hostnames := ["*.example.com"], routeMatches := [{ path := some ⟨.pathPrefix, "/"⟩ }] },
    { hostnames := ["App.example.com", "app.example.com"],
      routeMatches := [{ path := some ⟨.exact, "/login"⟩ }] },
    { hostnames := ["*.Example.com"], routeMatches := [{ path := some ⟨.pathPrefix, "/api"⟩ }] }]

def fallThroughRequest : Request where
  method := "GET"
  host := "APP.example.com:8080"
  path := "/api/users"
  header _ := []
  query _ := []

theorem fallThrough_best :
    ∃ table, compileRoutingTable .literal .stable fallThroughConfig = .ok table ∧
      (route .literal table (fun _ => 0) fallThroughRequest).map (·.ruleIndex) = some 2 ∧
      ∃ c, IsCandidate .literal fallThroughConfig fallThroughRequest c ∧ c.index = 2 ∧
        ∀ c', IsCandidate .literal fallThroughConfig fallThroughRequest c' → c' ≠ c →
          c'.rank < c.rank := by
  have hrun : (compileRoutingTable .literal .stable fallThroughConfig).toOption.bind
      (fun table => (route .literal table (fun _ => 0) fallThroughRequest).map (·.ruleIndex)) =
        some 2 := by decide +kernel
  obtain ⟨table, htable, hroute⟩ := Option.bind_eq_some_iff.mp hrun
  have hcompile := (toOption_eq_some _ _).mp htable
  obtain ⟨result, hresult, hindex⟩ := Option.map_eq_some_iff.mp hroute
  obtain ⟨c, hc, hci, -, hmax⟩ := (route_returns_best_candidate .literal fallThroughConfig
    fallThroughRequest hcompile (fun _ => 0)).2.1 result hresult
  exact ⟨table, hcompile, hroute, c, hc, hci.trans hindex, hmax⟩

end TunnelGateway.RoutingOptimality
