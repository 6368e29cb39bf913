import TunnelGateway.PathElements
import TunnelGateway.RequestFilters
import TunnelGateway.RoutingOptimality

/-!
Replacing the matched prefix of a path. `modifiedPath` is the table of the Gateway
API: what follows the prefix, without its trailing slash, is appended to the
replacement without its trailing slash. The filters append it and clean the
result, so they keep to the table exactly when the path of the table is already
clean; without a remainder they return the replacement as it is written.
-/
namespace TunnelGateway.PrefixReplacement

open GoText Fallible ProxyConfig Matcher Router RequestFilters UrlEncoding PathElements

/-- What follows the prefix, without the prefix's trailing slash. -/
def restOf (pre path : String) : String := trimPrefix path (trimSuffix pre "/")

/-- The modified path of the Gateway API. -/
def modifiedPath (pre replacement path : String) : String :=
  let rest := restOf pre path
  if rest = "" then (if replacement = "" then "/" else replacement)
  else trimSuffix replacement "/" ++ rest

/-- The inputs on which the filters keep to the table. -/
def KeepsTable (pre replacement path : String) : Prop :=
  if path = pre then
    hasPrefix replacement "/" = true ∧ (hasSuffix pre "/" = true → hasSuffix replacement "/" = true)
  else Canonical (modifiedPath pre replacement path).toList

instance (pre replacement path : String) : Decidable (KeepsTable pre replacement path) := by
  unfold KeepsTable
  infer_instance

theorem hasPrefix_slash_iff (s : String) : hasPrefix s "/" = true ↔ Rooted s.toList := by
  rw [hasPrefix_iff, Rooted, List.head?_eq_some_iff]
  exact exists_congr fun _ => eq_comm

theorem prefixPathMatches_iff (pre path : String) :
    prefixPathMatches pre path = true ↔ ∃ suffix, path.toList = pre.toList ++ suffix ∧
      (suffix = [] ∨ hasSuffix pre "/" = true ∨ ∃ rest, suffix = '/' :: rest) := by
  simp only [prefixPathMatches, Bool.and_eq_true, Bool.or_eq_true, beq_iff_eq, hasPrefix_iff]
  have hlen : ∀ suffix, path.toList = pre.toList ++ suffix →
      (len path = len pre ↔ suffix = []) := by
    intro suffix hsuffix
    have hpath : path = pre ++ String.ofList suffix := by
      rw [← String.toList_inj, String.toList_append, String.toList_ofList, hsuffix]
    rw [hpath, len_append, Nat.add_eq_left, len_eq_zero, ← String.toList_inj,
      String.toList_ofList]
    rfl
  constructor
  · rintro ⟨⟨suffix, hsuffix⟩, hend⟩
    refine ⟨suffix, hsuffix.symm, ?_⟩
    rwa [hlen suffix hsuffix.symm, ← hsuffix, List.drop_left, List.head?_eq_some_iff,
      or_assoc] at hend
  · rintro ⟨suffix, hsuffix, hend⟩
    refine ⟨⟨suffix, hsuffix.symm⟩, ?_⟩
    rwa [hlen suffix hsuffix, hsuffix, List.drop_left, List.head?_eq_some_iff, or_assoc]

/-- What is left of the path: nothing, a slash that belongs to the prefix, or more. -/
theorem prefixPathMatches_cases {pre path : String} (h : prefixPathMatches pre path = true) :
    ∃ suffix, path.toList = pre.toList ++ suffix ∧
      (hasSuffix pre "/" = true ∧ (restOf pre path).toList = '/' :: suffix ∨
        hasSuffix pre "/" = false ∧ (restOf pre path).toList = suffix ∧
          (suffix = [] ∨ ∃ rest, suffix = '/' :: rest)) := by
  obtain ⟨suffix, hsuffix, hend⟩ := (prefixPathMatches_iff pre path).mp h
  refine ⟨suffix, hsuffix, ?_⟩
  rcases trimSuffix_slash pre with ⟨hslash, htrim⟩ | ⟨hslash, htrim⟩
  · refine .inl ⟨hslash, ?_⟩
    have hrest : path.toList = (trimSuffix pre "/").toList ++ '/' :: suffix := by
      rw [hsuffix, htrim, List.append_assoc]
      rfl
    rw [restOf, trimPrefix_of_append hrest, String.toList_ofList]
  · refine .inr ⟨hslash, ?_, ?_⟩
    · rw [restOf, htrim, trimPrefix_of_append hsuffix, String.toList_ofList]
    · simpa [hslash] using hend

section Join

theorem elements_trimSuffix (s : String) :
    elements (trimSuffix s "/").toList = elements s.toList := by
  rcases trimSuffix_slash s with ⟨-, htrim⟩ | ⟨-, htrim⟩
  · rw [htrim, elements_append_slash, elements_nil, List.append_nil]
  · rw [htrim]

theorem rooted_trimSuffix (s : String) (rest : List Char) :
    Rooted ((trimSuffix s "/").toList ++ '/' :: rest) ↔ Rooted (s.toList ++ ['/']) := by
  rcases trimSuffix_slash s with ⟨-, htrim⟩ | ⟨-, htrim⟩
  · by_cases hnil : (trimSuffix s "/").toList = []
    · rw [htrim, hnil]
      exact Iff.rfl
    · rw [htrim, rooted_append hnil, List.append_assoc, rooted_append hnil]
  · rw [htrim]
    by_cases hnil : s.toList = []
    · rw [hnil]
      exact Iff.rfl
    · rw [rooted_append hnil, rooted_append hnil]

/-- A remainder is appended as in the table, then the path is cleaned. -/
theorem joinPathSegments_eq (replacement : String) {suffix rest : List Char} (hne : suffix ≠ [])
    (hrest : suffix = rest ∨ suffix = '/' :: rest) :
    joinPathSegments replacement (String.ofList suffix) =
      cleanPath (trimSuffix replacement "/" ++ String.ofList ('/' :: rest)) := by
  have hne' : String.ofList suffix ≠ "" := by
    intro h
    apply hne
    rw [← String.toList_ofList (l := suffix), h]
    rfl
  have helements : elements suffix = elements rest := by
    rcases hrest with rfl | rfl
    · rfl
    · exact elements_append_slash [] rest
  have hslash : "/".toList = ['/'] := rfl
  rw [joinPathSegments, if_neg hne']
  apply cleanPath_eq_of_elements
  · simp only [String.toList_append, String.toList_ofList]
    rw [rooted_trimSuffix]
    exact rooted_append (by simp) suffix
  · simp only [String.toList_append, String.toList_ofList]
    rw [elements_append_slash, elements_trimSuffix, ← helements, List.append_assoc]
    exact elements_append_slash replacement.toList suffix

variable {pre replacement : String}

/-- The prefix is the whole path. -/
private theorem replacement_follows_iff (replacement : String)
    (hrest : hasSuffix pre "/" = true ∧ (restOf pre pre).toList = ['/'] ∨
      hasSuffix pre "/" = false ∧ (restOf pre pre).toList = []) :
    (replacement = modifiedPath pre replacement pre ∧
      hasPrefix (modifiedPath pre replacement pre) "/" = true) ↔
    hasPrefix replacement "/" = true ∧
      (hasSuffix pre "/" = true → hasSuffix replacement "/" = true) := by
  rcases hrest with ⟨hslash, hrest⟩ | ⟨hslash, hrest⟩
  · have hmodified : modifiedPath pre replacement pre = trimSuffix replacement "/" ++ "/" := by
      have hone : restOf pre pre = "/" := String.toList_inj.mp hrest
      rw [modifiedPath, hone, if_neg (by decide)]
    rw [hmodified, hslash]
    rcases trimSuffix_slash replacement with ⟨hended, htrim⟩ | ⟨hended, htrim⟩
    · have heq : replacement = trimSuffix replacement "/" ++ "/" := by
        rw [← String.toList_inj, String.toList_append]
        exact htrim
      rw [← heq, hended]
      simp
    · have hne : replacement ≠ trimSuffix replacement "/" ++ "/" := by
        intro heq
        rw [htrim, ← String.toList_inj, String.toList_append] at heq
        exact absurd (List.append_right_eq_self.mp heq.symm) (by decide)
      simp [hne, hended]
  · have hempty : restOf pre pre = "" := String.toList_inj.mp hrest
    rw [modifiedPath, hempty, hslash]
    by_cases hreplacement : replacement = ""
    · subst hreplacement
      decide
    · simp [hreplacement]

/-- What both filters make of the path. -/
theorem joinPathSegments_follows_iff {path : String} (replacement : String)
    (hmatch : prefixPathMatches pre path = true) :
    (joinPathSegments replacement (trimPrefix path pre) = modifiedPath pre replacement path ∧
      hasPrefix (modifiedPath pre replacement path) "/" = true) ↔
    KeepsTable pre replacement path := by
  obtain ⟨suffix, hpath, hrest⟩ := prefixPathMatches_cases hmatch
  rw [trimPrefix_of_append hpath]
  by_cases hnil : suffix = []
  · rw [hnil, List.append_nil, String.toList_inj] at hpath
    subst hpath hnil
    have hwhole : joinPathSegments replacement (String.ofList []) = replacement := by
      simp [joinPathSegments]
    rw [KeepsTable, if_pos rfl]
    apply replacement_follows_iff
    rcases hrest with hrest | ⟨hslash, hrest, -⟩
    · exact .inl hrest
    · exact .inr ⟨hslash, hrest⟩
  · have hne : path ≠ pre := by
      rintro rfl
      exact hnil (List.append_right_eq_self.mp hpath.symm)
    obtain ⟨rest, hrest, hsuffix⟩ : ∃ rest, (restOf pre path).toList = '/' :: rest ∧
        (suffix = rest ∨ suffix = '/' :: rest) := by
      rcases hrest with ⟨-, hrest⟩ | ⟨-, hrest, hempty | ⟨rest, hslash⟩⟩
      · exact ⟨suffix, hrest, .inl rfl⟩
      · exact absurd hempty hnil
      · exact ⟨rest, hrest.trans hslash, .inr hslash⟩
    have hnonempty : restOf pre path ≠ "" := by
      intro h
      rw [h] at hrest
      cases hrest
    have hmodified : modifiedPath pre replacement path =
        trimSuffix replacement "/" ++ String.ofList ('/' :: rest) := by
      rw [modifiedPath, if_neg hnonempty, ← hrest, String.ofList_toList]
    rw [KeepsTable, if_neg hne, joinPathSegments_eq replacement hnil hsuffix, ← hmodified,
      hasPrefix_slash_iff]
    constructor
    · rintro ⟨hclean, hrooted⟩
      exact (cleanPath_eq_self_iff hrooted).mp hclean
    · intro hcanonical
      exact ⟨(cleanPath_eq_self_iff hcanonical.1).mpr hcanonical, hcanonical.1⟩

theorem rewritePath_eq {rewrite : URLRewritePath} (hpre : pre ≠ "")
    (htype : rewrite.type = .replacePrefixMatch)
    (hvalue : rewrite.replacePrefixMatch = some replacement) (path : String) :
    rewritePath pre rewrite path = joinPathSegments replacement (trimPrefix path pre) := by
  simp [rewritePath, htype, hvalue, hpre]

theorem buildRedirectPath_eq {redirect : RedirectConfig} (hpre : pre ≠ "")
    (hpath : redirect.path = some ⟨.replacePrefixMatch, replacement⟩) (path : String) :
    buildRedirectPath pre redirect path = joinPathSegments replacement (trimPrefix path pre) := by
  simp [buildRedirectPath, hpath, hpre]

end Join

section Routed

variable (lib : GoLib) (rand : ℕ → ℕ) (req : Request)

theorem matchedPrefix_of_compileRule {idx matchIdx : ℕ} {rule : RouteRule} {c : CompiledRule}
    (hcompile : compileRule lib idx rule = .ok c) (hfound : findMatchingIndex c req = some matchIdx)
    (hne : getMatchedPathPrefix c.rule matchIdx ≠ "") :
    prefixPathMatches (getMatchedPathPrefix c.rule matchIdx) req.path = true := by
  obtain ⟨routeMatches, hmatches, hcompile⟩ := (bind_eq_ok _ _ _).mp hcompile
  obtain ⟨filters, -, hcompile⟩ := (bind_eq_ok _ _ _).mp hcompile
  obtain ⟨backendFilters, -, hcompile⟩ := (bind_eq_ok _ _ _).mp hcompile
  cases hcompile
  obtain ⟨m, pm, hm, hpm, htype⟩ : ∃ m pm, rule.routeMatches[matchIdx]? = some m ∧
      m.path = some pm ∧ pm.type = .pathPrefix := by
    unfold getMatchedPathPrefix at hne
    split at hne
    · next pm hbind =>
      obtain ⟨m, hm, hpm⟩ := Option.bind_eq_some_iff.mp hbind
      refine ⟨m, pm, hm, hpm, ?_⟩
      by_contra hother
      rw [if_neg hother] at hne
      exact hne rfl
    · exact absurd rfl hne
  have hvalue : getMatchedPathPrefix rule matchIdx = pm.value := by
    simp [getMatchedPathPrefix, hm, hpm, htype]
  have hlength := length_of_forEach_eq_ok _ _ _ _ hmatches
  have hrange : matchIdx < routeMatches.length := by
    rw [hlength]
    exact (List.getElem?_eq_some_iff.mp hm).1
  have hnonempty : routeMatches.isEmpty = false := by
    rw [List.isEmpty_eq_false_iff, ← List.length_pos_iff]
    omega
  rw [findMatchingIndex, hnonempty] at hfound
  have hfires := (List.findIdx?_eq_some_iff_getElem.mp hfound).2.1
  obtain ⟨m', hm', hcompiled⟩ := getElem?_of_forEach_eq_ok hmatches (List.getElem?_eq_getElem hrange)
  rw [hm] at hm'
  cases hm'
  rw [compileMatch_matches lib req m _ hcompiled, satisfied] at hfires
  simp only [hpm, Option.all_some, Bool.and_eq_true] at hfires
  rw [hvalue]
  have hpath := hfires.1.1.1
  rwa [pathSatisfied, htype] at hpath

variable {cfg : Config} {result : RouteResult} {table : RoutingTable} {order : WildcardOrder}

/-- The prefix handed to the filters is one the request path matched. -/
theorem route_matchedPrefix (hcompile : compileRoutingTable lib order cfg = .ok table)
    (hroute : route lib table rand req = some result) (hne : result.matchedPrefix ≠ "") :
    prefixPathMatches result.matchedPrefix req.path = true := by
  obtain ⟨compiled, hcompiled, htable⟩ := (bind_eq_ok _ _ _).mp hcompile
  cases htable
  rw [RoutingOptimality.route_eq_findSome] at hroute
  obtain ⟨⟨bucket, c⟩, hmem, hresult⟩ := List.exists_of_findSome?_eq_some hroute
  obtain ⟨hc, -⟩ := (RoutingOptimality.mem_attempts lib order cfg.version compiled _ _ _).mp hmem
  obtain ⟨idx, rule, -, hrule⟩ := (mem_of_forEach_eq_ok _ _ _ _ hcompiled c).mp hc
  obtain ⟨matchIdx, hfound, rfl⟩ := Option.map_eq_some_iff.mp hresult
  exact matchedPrefix_of_compileRule lib req hrule hfound hne

end Routed

/-- The filters keep to the table of the Gateway API exactly on the inputs named. -/
theorem replace_prefix_follows_table_iff {pre path : String} (replacement : String)
    (hpre : pre ≠ "") (hmatch : prefixPathMatches pre path = true)
    {rewrite : URLRewritePath} (htype : rewrite.type = .replacePrefixMatch)
    (hvalue : rewrite.replacePrefixMatch = some replacement) {redirect : RedirectConfig}
    (hredirect : redirect.path = some ⟨.replacePrefixMatch, replacement⟩) :
    (rewritePath pre rewrite path = modifiedPath pre replacement path ∧
      buildRedirectPath pre redirect path = modifiedPath pre replacement path ∧
      hasPrefix (modifiedPath pre replacement path) "/" = true) ↔
    KeepsTable pre replacement path := by
  rw [rewritePath_eq hpre htype hvalue, buildRedirectPath_eq hpre hredirect,
    ← joinPathSegments_follows_iff replacement hmatch, ← and_assoc, and_self]

section Rows

def rewriteTo (replacement : String) : URLRewritePath where
  type := .replacePrefixMatch
  replacePrefixMatch := some replacement

def redirectTo (replacement : String) : RedirectConfig where
  path := some ⟨.replacePrefixMatch, replacement⟩

/-- The first row of the table. -/
theorem foo_bar_follows_table :
    rewritePath "/foo" (rewriteTo "/xyz") "/foo/bar" = modifiedPath "/foo" "/xyz" "/foo/bar" ∧
      buildRedirectPath "/foo" (redirectTo "/xyz") "/foo/bar" =
        modifiedPath "/foo" "/xyz" "/foo/bar" ∧
      hasPrefix (modifiedPath "/foo" "/xyz" "/foo/bar") "/" = true := by
  have htype : (rewriteTo "/xyz").type = .replacePrefixMatch := rfl
  have hredirect : (redirectTo "/xyz").path = some ⟨.replacePrefixMatch, "/xyz"⟩ := rfl
  have hmatch : prefixPathMatches "/foo" "/foo/bar" = true := by decide +kernel
  have hrow := replace_prefix_follows_table_iff "/xyz" (by decide) hmatch htype rfl hredirect
  exact hrow.mpr (by decide +kernel)

/-- Two rows that are not kept: the trailing slash is lost, and an empty replacement of the
whole path leaves nothing. -/
theorem table_rows_not_kept :
    (prefixPathMatches "/foo" "/foo/" = true ∧ modifiedPath "/foo" "/xyz" "/foo/" = "/xyz/" ∧
      rewritePath "/foo" (rewriteTo "/xyz") "/foo/" = "/xyz" ∧
      buildRedirectPath "/foo" (redirectTo "/xyz") "/foo/" = "/xyz") ∧
    prefixPathMatches "/foo" "/foo" = true ∧ modifiedPath "/foo" "" "/foo" = "/" ∧
      rewritePath "/foo" (rewriteTo "") "/foo" = "" ∧
      buildRedirectPath "/foo" (redirectTo "") "/foo" = "" := by
  decide +kernel

end Rows

section Rewrites

/-- A rewrite that replaces the matched prefix. -/
structure ReplacesPrefix (cfg : URLRewriteConfig) (replacement : String) where
  rewrite : URLRewritePath
  path : cfg.path = some rewrite
  type : rewrite.type = .replacePrefixMatch
  value : rewrite.replacePrefixMatch = some replacement

/-- A routed request rewritten by its rule. -/
theorem routed_rewrite_follows_iff {lib : GoLib} {order : WildcardOrder} {cfg : Config}
    {table : RoutingTable} {rand : ℕ → ℕ} {req : ProxyRequest} {result : RouteResult}
    {rewriteCfg : URLRewriteConfig} {replacement : String}
    (hcompile : compileRoutingTable lib order cfg = .ok table)
    (hroute : route lib table rand req.toRequest = some result) (hne : result.matchedPrefix ≠ "")
    (h : ReplacesPrefix rewriteCfg replacement) :
    ((rewriteURL result.matchedPrefix rewriteCfg req).path =
        modifiedPath result.matchedPrefix replacement req.path ∧
      hasPrefix (modifiedPath result.matchedPrefix replacement req.path) "/" = true) ↔
    KeepsTable result.matchedPrefix replacement req.path := by
  have hmatch := route_matchedPrefix lib rand req.toRequest hcompile hroute hne
  have hrewritten : (rewriteURL result.matchedPrefix rewriteCfg req).path =
      rewritePath result.matchedPrefix h.rewrite req.path := by
    rw [rewriteURL, h.path]
    cases rewriteCfg.hostname <;> rfl
  rw [hrewritten, rewritePath_eq hne h.type h.value]
  exact joinPathSegments_follows_iff replacement hmatch

def fooConfig : Config :=
  ⟨1, [{ routeMatches := [{ path := some ⟨.pathPrefix, "/foo"⟩ }] }], false⟩

def fooRequest : ProxyRequest where
  toRequest := ⟨"GET", "", "/foo/bar", fun _ => [], fun _ => []⟩

theorem routed_foo_bar_follows_table : ∃ table result,
    compileRoutingTable .literal .stable fooConfig = .ok table ∧
    route .literal table (fun _ => 0) fooRequest.toRequest = some result ∧
    (rewriteURL result.matchedPrefix ⟨none, some (rewriteTo "/xyz")⟩ fooRequest).path =
      modifiedPath result.matchedPrefix "/xyz" "/foo/bar" := by
  have hrun : ((compileRoutingTable .literal .stable fooConfig).toOption.bind fun table =>
      (route .literal table (fun _ => 0) fooRequest.toRequest).map fun result =>
        decide (result.matchedPrefix ≠ "" ∧ KeepsTable result.matchedPrefix "/xyz" "/foo/bar")) =
      some true := by
    decide +kernel
  obtain ⟨table, htable, hrun⟩ := Option.bind_eq_some_iff.mp hrun
  obtain ⟨result, hroute, hrun⟩ := Option.map_eq_some_iff.mp hrun
  obtain ⟨hne, hkeeps⟩ := of_decide_eq_true hrun
  have hcompile := (toOption_eq_some _ _).mp htable
  exact ⟨table, result, hcompile, hroute,
    ((routed_rewrite_follows_iff hcompile hroute hne ⟨_, rfl, rfl, rfl⟩).mpr hkeeps).1⟩

end Rewrites

end TunnelGateway.PrefixReplacement
