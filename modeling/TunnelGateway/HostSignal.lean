import TunnelGateway.Forwarding
import TunnelGateway.RoutingOptimality

/-!
The internal header by which a URLRewrite filter tells the Director to leave the
Host alone, seen from a client that sends it. Two requests that differ only in
that header are followed through routing and filters to the two request builders.
-/
namespace TunnelGateway.HostSignal

open GoText Fallible ProxyConfig Matcher Router RoutingOptimality RequestFilters Forwarding

/-- The key the header is stored under. -/
def signalKey : String := canonicalHeaderKey hostRewrittenHeader

/-- Two requests that differ at most in the signal. -/
structure SameButSignal (a b : ProxyRequest) : Prop where
  method : a.method = b.method
  host : a.host = b.host
  path : a.path = b.path
  query : a.query = b.query
  rawPath : a.rawPath = b.rawPath
  rawQuery : a.rawQuery = b.rawQuery
  forceQuery : a.forceQuery = b.forceQuery
  header : ∀ key, key ≠ signalKey → a.header key = b.header key

variable {a b : ProxyRequest} {name : String}

theorem SameButSignal.values (h : SameButSignal a b) (hname : canonicalHeaderKey name ≠ signalKey) :
    a.header.values name = b.header.values name :=
  h.header _ hname

theorem SameButSignal.get (h : SameButSignal a b) (hname : canonicalHeaderKey name ≠ signalKey) :
    a.header.get name = b.header.get name := by
  rw [Header.get, Header.get, h.values hname]

theorem SameButSignal.symm (h : SameButSignal a b) : SameButSignal b a :=
  ⟨h.method.symm, h.host.symm, h.path.symm, h.query.symm, h.rawPath.symm, h.rawQuery.symm,
    h.forceQuery.symm, fun key hkey => (h.header key hkey).symm⟩

/-- With the same signal the two are one request. -/
theorem SameButSignal.eq (h : SameButSignal a b)
    (hsignal : a.header signalKey = b.header signalKey) : a = b := by
  have hheader : a.header = b.header := by
    funext key
    by_cases hkey : key = signalKey
    · rw [hkey, hsignal]
    · exact h.header key hkey
  obtain ⟨⟨_, _, _, _, _⟩, _, _, _⟩ := b
  obtain ⟨hmethod, hhost, hpath, hquery, hrawPath, hrawQuery, hforceQuery, -⟩ := h
  subst hmethod hhost hpath hquery hrawPath hrawQuery hforceQuery hheader
  rfl

section Filters

/-- The names a modifier sets, adds or removes. -/
def modifiedNames (modifier : HeaderModifier) : List String :=
  modifier.set.map HeaderValue.name ++ modifier.add.map HeaderValue.name ++ modifier.remove

/-- The filter does not name the signal. -/
def LeavesSignal : Filter → Prop
  | .requestHeaderModifier (some modifier) =>
      ∀ name ∈ modifiedNames modifier, canonicalHeaderKey name ≠ signalKey
  | _ => True

/-- A URLRewrite filter that sets a hostname. -/
def rewritesHost : Filter → Bool
  | .urlRewriter (some cfg) => cfg.hostname.isSome
  | _ => false

variable {h h' : Header} {key matchedPrefix : String} {α : Type} {step : Header → α → Header}
  {a b a' : ProxyRequest}

/-- What a loop over header edits leaves under a key depends on what was there. -/
private theorem foldl_congr_at (hstep : ∀ h h' x, h key = h' key → step h x key = step h' x key)
    (xs : List α) (heq : h key = h' key) : xs.foldl step h key = xs.foldl step h' key := by
  induction xs generalizing h h' with
  | nil => exact heq
  | cons x rest ih => exact ih (hstep h h' x heq)

private theorem foldl_frame_at (xs : List α)
    (hstep : ∀ x ∈ xs, ∀ h : Header, step h x key = h key) (h : Header) :
    xs.foldl step h key = h key := by
  induction xs generalizing h with
  | nil => rfl
  | cons x rest ih =>
    rw [List.foldl_cons, ih (fun y hy => hstep y (List.mem_cons_of_mem _ hy)),
      hstep x List.mem_cons_self]

/-- An update under one key shows only what was there under each key. -/
private theorem update_congr_at {other : String} {v v' : List String} (hv : key = other → v = v')
    (heq : h key = h' key) : Function.update h other v key = Function.update h' other v' key := by
  by_cases hkey : key = other
  · subst hkey
    rw [Function.update_self, Function.update_self, hv rfl]
  · rw [Function.update_of_ne hkey, Function.update_of_ne hkey, heq]

theorem applyHeaderModifier_congr_at (heq : h key = h' key) (modifier : HeaderModifier) :
    applyHeaderModifier h modifier key = applyHeaderModifier h' modifier key := by
  have hset : ∀ (g g' : Header) (v : HeaderValue), g key = g' key →
      g.set v.name v.value key = g'.set v.name v.value key :=
    fun _ _ _ hg => update_congr_at (fun _ => rfl) hg
  have hadd : ∀ (g g' : Header) (v : HeaderValue), g key = g' key →
      g.add v.name v.value key = g'.add v.name v.value key := by
    intro g g' v hg
    refine update_congr_at (fun hkey => ?_) hg
    rw [Header.values, Header.values, ← hkey, hg]
  have hdel : ∀ (g g' : Header) (name : String), g key = g' key →
      g.del name key = g'.del name key :=
    fun _ _ _ hg => update_congr_at (fun _ => rfl) hg
  exact foldl_congr_at hdel _ (foldl_congr_at hadd _ (foldl_congr_at hset _ heq))

/-- A key no edit names keeps its values. -/
theorem applyHeaderModifier_frame (modifier : HeaderModifier)
    (hnames : ∀ name ∈ modifiedNames modifier, canonicalHeaderKey name ≠ key) (h : Header) :
    applyHeaderModifier h modifier key = h key := by
  simp only [modifiedNames, List.mem_append, List.mem_map] at hnames
  unfold applyHeaderModifier
  rw [foldl_frame_at modifier.remove, foldl_frame_at modifier.add, foldl_frame_at modifier.set]
  · intro v hv g
    exact Function.update_of_ne (hnames _ (Or.inl (Or.inl ⟨v, hv, rfl⟩))).symm _ _
  · intro v hv g
    exact Function.update_of_ne (hnames _ (Or.inl (Or.inr ⟨v, hv, rfl⟩))).symm _ _
  · intro name hname g
    exact Function.update_of_ne (hnames _ (Or.inr hname)).symm _ _

theorem SameButSignal.rewriteHost (h : SameButSignal a b) (hostname : Option String) :
    SameButSignal (RequestFilters.rewriteHost hostname a)
      (RequestFilters.rewriteHost hostname b) := by
  cases hostname with
  | none => exact h
  | some hostname =>
    refine { h with host := rfl, header := fun key hkey => ?_ }
    exact update_congr_at (fun hsame => absurd hsame hkey) (h.header key hkey)

theorem SameButSignal.rewriteURL (h : SameButSignal a b) (matchedPrefix : String)
    (cfg : URLRewriteConfig) :
    SameButSignal (RequestFilters.rewriteURL matchedPrefix cfg a)
      (RequestFilters.rewriteURL matchedPrefix cfg b) := by
  have hhost := h.rewriteHost cfg.hostname
  unfold RequestFilters.rewriteURL
  cases cfg.path with
  | none => exact hhost
  | some path => exact { hhost with path := by simp [hhost.path] }

/-- A filter that passes one request on passes the other on, and no filter looks
at the signal. -/
theorem processRequest_same (h : SameButSignal a b) (matchedPrefix : String) (filter : Filter)
    (ha : processRequest matchedPrefix a filter = .next a') :
    ∃ b', processRequest matchedPrefix b filter = .next b' ∧ SameButSignal a' b' := by
  cases filter with
  | requestHeaderModifier modifier =>
    cases modifier with
    | none => cases ha
    | some modifier =>
      cases ha
      refine ⟨_, rfl, { h with header := fun key hkey => ?_ }⟩
      exact applyHeaderModifier_congr_at (h.header key hkey) modifier
  | responseHeaderModifier modifier =>
    cases ha
    exact ⟨b, rfl, h⟩
  | requestRedirect cfg => cases cfg <;> cases ha
  | urlRewriter cfg =>
    cases cfg with
    | none => cases ha
    | some cfg =>
      cases ha
      exact ⟨_, rfl, h.rewriteURL matchedPrefix cfg⟩
  | requestMirror cfg =>
    cases ha
    exact ⟨b, rfl, h⟩
  | cors cfg =>
    cases cfg with
    | none =>
      cases ha
      exact ⟨b, rfl, h⟩
    | some cfg =>
      have hsame : isCORSPreflight a = isCORSPreflight b := by
        rw [isCORSPreflight, isCORSPreflight, h.method, h.get (by decide +kernel)]
      rw [processRequest, hsame] at ha
      split at ha
      · cases ha
      · rename_i hpreflight
        cases ha
        exact ⟨b, by rw [processRequest, if_neg hpreflight], h⟩

theorem applyRequestFilters_same (h : SameButSignal a b) (matchedPrefix : String)
    (filters : List Filter) (ha : applyRequestFilters matchedPrefix filters a = .next a') :
    ∃ b', applyRequestFilters matchedPrefix filters b = .next b' ∧ SameButSignal a' b' := by
  induction filters generalizing a b with
  | nil =>
    cases ha
    exact ⟨b, rfl, h⟩
  | cons filter rest ih =>
    rw [applyRequestFilters] at ha
    split at ha
    · rename_i a₁ hstep
      obtain ⟨b₁, hb₁, hsame⟩ := processRequest_same h matchedPrefix filter hstep
      obtain ⟨b', hb', hsame'⟩ := ih hsame ha
      exact ⟨b', by rw [applyRequestFilters, hb₁]; exact hb', hsame'⟩
    · cases ha
    · cases ha

/-- The signal after a filter that does not name it. -/
theorem signal_processRequest {filter : Filter} (hleaves : LeavesSignal filter)
    (ha : processRequest matchedPrefix a filter = .next a') :
    a'.header signalKey = if rewritesHost filter then ["true"] else a.header signalKey := by
  cases filter with
  | requestHeaderModifier modifier =>
    cases modifier with
    | none => cases ha
    | some modifier =>
      cases ha
      exact applyHeaderModifier_frame modifier hleaves a.header
  | responseHeaderModifier modifier => cases ha; rfl
  | requestRedirect cfg => cases cfg <;> cases ha
  | urlRewriter cfg =>
    cases cfg with
    | none => cases ha
    | some cfg =>
      cases ha
      have hpath : (rewriteURL matchedPrefix cfg a).header =
          (rewriteHost cfg.hostname a).header := by
        unfold rewriteURL
        cases cfg.path <;> rfl
      rw [hpath, rewritesHost]
      cases cfg.hostname with
      | none => rfl
      | some hostname => exact a.header.values_set hostRewrittenHeader "true"
  | requestMirror cfg => cases ha; rfl
  | cors cfg =>
    cases cfg with
    | none => cases ha; rfl
    | some cfg =>
      rw [processRequest] at ha
      split at ha
      · cases ha
      · cases ha
        rfl

theorem signal_applyRequestFilters {filters : List Filter}
    (hleaves : ∀ filter ∈ filters, LeavesSignal filter)
    (ha : applyRequestFilters matchedPrefix filters a = .next a') :
    a'.header signalKey = if filters.any rewritesHost then ["true"] else a.header signalKey := by
  induction filters generalizing a with
  | nil => cases ha; rfl
  | cons filter rest ih =>
    rw [applyRequestFilters] at ha
    split at ha
    · rename_i a₁ hstep
      have hfirst := signal_processRequest (hleaves filter List.mem_cons_self) hstep
      have hrest := ih (fun f hf => hleaves f (List.mem_cons_of_mem _ hf)) ha
      rw [hrest, hfirst, List.any_cons]
      by_cases hany : rest.any rewritesHost = true
      · simp [hany]
      · cases hhost : rewritesHost filter <;> simp
    · cases ha
    · cases ha

end Filters

section Routing

variable (lib : GoLib)

/-- No header match of the rule reads the signal. -/
def IgnoresSignal (rule : RouteRule) : Prop :=
  ∀ m ∈ rule.routeMatches, ∀ hm ∈ m.headers, canonicalHeaderKey hm.name ≠ signalKey

variable {a b : ProxyRequest}

theorem satisfied_same (h : SameButSignal a b) (m : RouteMatch)
    (hm : ∀ hm ∈ m.headers, canonicalHeaderKey hm.name ≠ signalKey) :
    satisfied lib a.toRequest m = satisfied lib b.toRequest m := by
  have hpath : pathSatisfied lib a.toRequest = pathSatisfied lib b.toRequest := by
    funext pm
    simp [pathSatisfied, h.path]
  have hheaders : m.headers.all (fun hm =>
        valueSatisfied lib hm.type hm.value (a.header.values hm.name)) =
      m.headers.all (fun hm => valueSatisfied lib hm.type hm.value (b.header.values hm.name)) := by
    rw [Bool.eq_iff_iff, List.all_eq_true, List.all_eq_true]
    refine forall₂_congr fun entry hentry => ?_
    rw [h.values (hm entry hentry)]
  simp [satisfied, hpath, h.method, h.query, hheaders]

/-- The first match to fire is the same for both requests. -/
theorem findMatchingIndex_same (h : SameButSignal a b) {idx : ℕ} {rule : RouteRule}
    {c : CompiledRule} (hc : compileRule lib idx rule = .ok c) (hrule : IgnoresSignal rule) :
    findMatchingIndex c a.toRequest = findMatchingIndex c b.toRequest := by
  obtain ⟨routeMatches, hmatches, hc⟩ := (bind_eq_ok _ _ _).mp hc
  obtain ⟨filters, -, hc⟩ := (bind_eq_ok _ _ _).mp hc
  obtain ⟨backendFilters, -, hc⟩ := (bind_eq_ok _ _ _).mp hc
  cases hc
  have hfires : ∀ cm ∈ routeMatches,
      cm.matchesRequest a.toRequest = cm.matchesRequest b.toRequest := by
    intro cm hcm
    obtain ⟨_, m, hm, hcompile⟩ := (mem_of_forEach_eq_ok _ _ _ _ hmatches cm).mp hcm
    rw [compileMatch_matches lib _ m cm hcompile, compileMatch_matches lib _ m cm hcompile,
      satisfied_same lib h m (hrule m (List.mem_of_getElem? hm))]
  have hmap := congrArg (List.findIdx? id) (List.map_congr_left hfires)
  rw [List.findIdx?_map, List.findIdx?_map] at hmap
  simp only [findMatchingIndex]
  split
  · rfl
  · exact hmap

theorem extractHost_same (h : SameButSignal a b) :
    extractHost lib a.toRequest = extractHost lib b.toRequest := by
  rw [extractHost, extractHost, h.get (by decide +kernel), h.host]

/-- Two scans of one list agree when each hit of a kind in question is a hit of
the other scan too. -/
private theorem findSome_eq {α β : Type} {f g : α → Option β} {p : β → Prop} {l : List α}
    (hfg : ∀ x ∈ l, ∀ y, f x = some y → p y → g x = some y)
    (hgf : ∀ x ∈ l, ∀ y, g x = some y → p y → f x = some y) {y z : β}
    (hy : l.findSome? f = some y) (hz : l.findSome? g = some z) (hpy : p y) (hpz : p z) :
    y = z := by
  induction l with
  | nil => cases hy
  | cons x rest ih =>
    rw [List.findSome?_cons] at hy hz
    cases hf : f x with
    | some v =>
      rw [hf] at hy
      cases hy
      rw [hfg x List.mem_cons_self y hf hpy] at hz
      cases hz
      rfl
    | none =>
      cases hg : g x with
      | some w =>
        rw [hg] at hz
        cases hz
        rw [hgf x List.mem_cons_self z hg hpz] at hf
        cases hf
      | none =>
        rw [hf] at hy
        rw [hg] at hz
        exact ih (fun x hx => hfg x (List.mem_cons_of_mem _ hx))
          (fun x hx => hgf x (List.mem_cons_of_mem _ hx)) hy hz

variable {lib}

/-- Requests that differ in the signal alone are routed alike, unless one of the
rules they reach reads it. -/
theorem route_same {order : WildcardOrder} {cfg : Config} {table : RoutingTable}
    (hcompile : compileRoutingTable lib order cfg = .ok table) {rand : ℕ → ℕ}
    (h : SameButSignal a b) {ra rb : RouteResult}
    (ha : route lib table rand a.toRequest = some ra)
    (hb : route lib table rand b.toRequest = some rb) (hra : IgnoresSignal ra.rule)
    (hrb : IgnoresSignal rb.rule) : ra = rb := by
  obtain ⟨compiled, hcompiled, htable⟩ := (bind_eq_ok _ _ _).mp hcompile
  cases htable
  rw [route_eq_findSome] at ha hb
  rw [← extractHost_same lib h] at hb
  have hstep : ∀ {a b : ProxyRequest}, SameButSignal a b →
      ∀ attempt ∈ attempts (buildTable lib order cfg.version compiled)
          (extractHost lib a.toRequest), ∀ result host,
        attemptResult rand a.toRequest host attempt = some result → IgnoresSignal result.rule →
          attemptResult rand b.toRequest host attempt = some result := by
    intro a b h attempt hattempt result host hresult hrule
    have hc := ((mem_attempts lib order cfg.version compiled _ attempt.1 attempt.2).mp hattempt).1
    obtain ⟨idx, rule, -, hrulec⟩ := (mem_of_forEach_eq_ok _ _ _ _ hcompiled attempt.2).mp hc
    have heq := (compiledFrom_of_compileRule lib a.toRequest hrulec).rule_eq
    obtain ⟨matchIdx, hidx, rfl⟩ := Option.map_eq_some_iff.mp hresult
    rw [attemptResult, ← findMatchingIndex_same lib h hrulec (heq ▸ hrule), hidx]
    rfl
  refine findSome_eq (p := fun r => IgnoresSignal r.rule) ?_ ?_ ha hb hra hrb
  · exact fun attempt hattempt result => hstep h attempt hattempt result _
  · refine fun attempt hattempt result => hstep h.symm attempt ?_ result _
    rwa [← extractHost_same lib h]

end Routing

section Builders

variable {a b : ProxyRequest}

theorem isHostRewritten_of_signal_eq (h : a.header signalKey = b.header signalKey) :
    isHostRewritten a.header = isHostRewritten b.header := by
  have hget : a.header.get hostRewrittenHeader = b.header.get hostRewrittenHeader :=
    congrArg (List.headD · "") h
  rw [isHostRewritten, isHostRewritten, hget]

/-- Restoring the original host, or not, makes no difference. -/
def HostKept (req : ProxyRequest) : Prop :=
  req.header.get originalHostHeader = "" ∨ req.header.get originalHostHeader = req.host

theorem directorHost_eq_host_iff (hnot : isHostRewritten a.header = false) :
    directorHost a = a.host ↔ HostKept a := by
  rw [directorHost, hnot, HostKept]
  by_cases hempty : a.header.get originalHostHeader = "" <;> simp [hempty]

theorem suppressUserAgent_congr {h h' : Header}
    (heq : ∀ key, key ≠ signalKey → h key = h' key) (key : String) (hkey : key ≠ signalKey) :
    suppressUserAgent h key = suppressUserAgent h' key := by
  have hagent : h.values "User-Agent" = h'.values "User-Agent" := heq _ (by decide +kernel)
  rw [suppressUserAgent, suppressUserAgent, hagent]
  split
  · exact update_congr_at (fun _ => rfl) (heq key hkey)
  · exact heq key hkey

/-- The Director's headers differ at most in the signal. -/
theorem directorHeader_same (h : SameButSignal a b) (key : String) (hkey : key ≠ signalKey) :
    directorHeader a.header key = directorHeader b.header key := by
  have hcleared : ∀ (header : Header) (key : String), key ≠ signalKey →
      (if isHostRewritten header then header.del hostRewrittenHeader else header) key =
        header key := by
    intro header key hkey
    split
    · exact Function.update_of_ne hkey _ _
    · rfl
  refine suppressUserAgent_congr (fun key hkey => ?_) key hkey
  refine update_congr_at (fun _ => rfl) ?_
  rw [hcleared a.header key hkey, hcleared b.header key hkey, h.header key hkey]

theorem directorHeader_eq_iff (h : SameButSignal a b) :
    directorHeader a.header = directorHeader b.header ↔
      (if isHostRewritten a.header then [] else a.header signalKey) =
        (if isHostRewritten b.header then [] else b.header signalKey) := by
  have hsignal : ∀ req : ProxyRequest, directorHeader req.header signalKey =
      if isHostRewritten req.header then [] else req.header signalKey :=
    fun req => hostRewritten_directorHeader req.header
  rw [← hsignal a, ← hsignal b]
  constructor
  · exact fun heq => congrFun heq signalKey
  · intro heq
    funext key
    by_cases hkey : key = signalKey
    · rw [hkey, heq]
    · exact directorHeader_same h key hkey

/-- The signals of two requests leave no trace on the HTTP path: they are the
same, both are taken for the filter's, or one is and the other is absent while
the Host is not at stake. -/
def SignalsAlike (a b filtered : ProxyRequest) : Prop :=
  a.header signalKey = b.header signalKey ∨
    (isHostRewritten a.header = true ∧ isHostRewritten b.header = true) ∨
    (isHostRewritten a.header = true ∧ b.header signalKey = [] ∧ HostKept filtered) ∨
    (isHostRewritten b.header = true ∧ a.header signalKey = [] ∧ HostKept filtered)

theorem director_eq_iff (h : SameButSignal a b) (backend : URL) :
    director backend a = director backend b ↔ SignalsAlike a b a := by
  have hkept : HostKept a ↔ HostKept b := by
    rw [HostKept, HostKept, h.get (by decide +kernel), h.host]
  have hparts : director backend a = director backend b ↔
      directorHost a = directorHost b ∧ directorHeader a.header = directorHeader b.header := by
    simp [director, applyBackendBasePath, h.method, h.path, h.rawPath, h.rawQuery, h.forceQuery]
  rw [hparts, directorHeader_eq_iff h, SignalsAlike]
  cases ha : isHostRewritten a.header with
  | true =>
    have hhosta : directorHost a = a.host := by rw [directorHost, ha, if_pos rfl]
    cases hb : isHostRewritten b.header with
    | true =>
      have hhostb : directorHost b = b.host := by rw [directorHost, hb, if_pos rfl]
      simp [hhosta, hhostb, h.host]
    | false =>
      have hne : a.header signalKey ≠ b.header signalKey := by
        intro heq
        rw [isHostRewritten_of_signal_eq heq, hb] at ha
        cases ha
      have hhost : directorHost a = directorHost b ↔ HostKept a := by
        rw [hhosta, h.host, eq_comm, directorHost_eq_host_iff hb, hkept]
      simp [hne, hhost, and_comm]
  | false =>
    cases hb : isHostRewritten b.header with
    | true =>
      have hhostb : directorHost b = b.host := by rw [directorHost, hb, if_pos rfl]
      have hne : a.header signalKey ≠ b.header signalKey := by
        intro heq
        rw [isHostRewritten_of_signal_eq heq, hb] at ha
        cases ha
      have hhost : directorHost a = directorHost b ↔ HostKept a := by
        rw [hhostb, ← h.host, directorHost_eq_host_iff ha]
      simp [hne, hhost, and_comm]
    | false =>
      have hhost : directorHost a = directorHost b := by
        rw [directorHost, directorHost, ha, hb, h.get (by decide +kernel), h.host]
      simp [hhost]

/-- The upgrade request carries the signal as it came. -/
theorem buildBackendUpgradeRequest_eq_iff (h : SameButSignal a b) (backend : URL) :
    buildBackendUpgradeRequest backend a = buildBackendUpgradeRequest backend b ↔
      a.header signalKey = b.header signalKey := by
  constructor
  · exact fun heq => congrFun (congrArg OutRequest.header heq) signalKey
  · intro heq
    rw [h.eq heq]

end Builders

section EndToEnd

/-- The filters a routed request passes. -/
def resultFilters (result : RouteResult) : List Filter := result.filters ++ result.backendFilters

def filteredRequest (result : RouteResult) (req : ProxyRequest) : FilterOutcome :=
  applyRequestFilters result.matchedPrefix (resultFilters result) req

/-- The selected rule neither matches on the signal nor modifies it. -/
structure Unconcerned (result : RouteResult) : Prop where
  ignores : IgnoresSignal result.rule
  leaves : ∀ filter ∈ resultFilters result, LeavesSignal filter

/-- What reaches a backend does not depend on which of the two was sent. -/
def ForwardedAlike (fa fb : ProxyRequest) : Prop :=
  ∀ backend, director backend fa = director backend fb ∧
    buildBackendUpgradeRequest backend fa = buildBackendUpgradeRequest backend fb

theorem signalsAlike_filtered {result : RouteResult} {a b fa fb : ProxyRequest}
    (hresult : Unconcerned result) (hfa : filteredRequest result a = .next fa)
    (hfb : filteredRequest result b = .next fb) :
    SignalsAlike fa fb fa ↔
      (resultFilters result).any rewritesHost = true ∨ SignalsAlike a b fa := by
  have hsignala := signal_applyRequestFilters hresult.leaves hfa
  have hsignalb := signal_applyRequestFilters hresult.leaves hfb
  by_cases hrewrites : (resultFilters result).any rewritesHost = true
  · rw [if_pos hrewrites] at hsignala hsignalb
    exact iff_of_true (Or.inl (hsignala.trans hsignalb.symm)) (Or.inl hrewrites)
  · rw [if_neg hrewrites] at hsignala hsignalb
    rw [SignalsAlike, isHostRewritten_of_signal_eq hsignala,
      isHostRewritten_of_signal_eq hsignalb, hsignala, hsignalb]
    exact (or_iff_right hrewrites).symm

/-- A client's signal is inert on both paths exactly when a URLRewrite filter
overwrites it or it is the same; on the HTTP path alone it may also be absent or
be taken for the filter's as long as that changes nothing. -/
theorem signal_inert_iff {lib : GoLib} {order : WildcardOrder} {cfg : Config}
    {table : RoutingTable} (hcompile : compileRoutingTable lib order cfg = .ok table)
    {rand : ℕ → ℕ} {a b : ProxyRequest} (h : SameButSignal a b) {ra rb : RouteResult}
    (ha : route lib table rand a.toRequest = some ra)
    (hb : route lib table rand b.toRequest = some rb)
    (hra : Unconcerned ra) (hrb : Unconcerned rb) {fa fb : ProxyRequest}
    (hfa : filteredRequest ra a = .next fa) (hfb : filteredRequest rb b = .next fb) :
    (ForwardedAlike fa fb ↔
      (resultFilters ra).any rewritesHost = true ∨ a.header signalKey = b.header signalKey) ∧
    ((∀ backend, director backend fa = director backend fb) ↔
      (resultFilters ra).any rewritesHost = true ∨ SignalsAlike a b fa) := by
  have hresults := route_same hcompile h ha hb hra.ignores hrb.ignores
  subst hresults
  obtain ⟨fb', hfb', hsame⟩ := applyRequestFilters_same h _ _ hfa
  cases hfb'.symm.trans hfb
  have hsignala := signal_applyRequestFilters hra.leaves hfa
  have hsignalb := signal_applyRequestFilters hra.leaves hfb
  have hdirector : (∀ backend, director backend fa = director backend fb) ↔
      SignalsAlike fa fb fa :=
    ⟨fun hall => (director_eq_iff hsame ⟨"", "", "", "", []⟩).mp (hall _),
      fun halike backend => (director_eq_iff hsame backend).mpr halike⟩
  refine ⟨?_, hdirector.trans (signalsAlike_filtered hra hfa hfb)⟩
  constructor
  · intro hall
    have heq := (buildBackendUpgradeRequest_eq_iff hsame ⟨"", "", "", "", []⟩).mp (hall _).2
    by_cases hrewrites : (resultFilters ra).any rewritesHost = true
    · exact Or.inl hrewrites
    · rw [if_neg hrewrites] at hsignala hsignalb
      exact Or.inr (hsignala.symm.trans (heq.trans hsignalb))
  · intro hcondition backend
    have heq : fa.header signalKey = fb.header signalKey := by
      rw [hsignala, hsignalb]
      rcases hcondition with hrewrites | hequal
      · rw [if_pos hrewrites, if_pos hrewrites]
      · rw [hequal]
    rw [hsame.eq heq]
    exact ⟨rfl, rfl⟩

instance (rule : RouteRule) : Decidable (IgnoresSignal rule) := by
  unfold IgnoresSignal
  infer_instance

instance : DecidablePred LeavesSignal
  | .requestHeaderModifier (some modifier) =>
      inferInstanceAs (Decidable (∀ name ∈ modifiedNames modifier, canonicalHeaderKey name ≠ signalKey))
  | .requestHeaderModifier none => isTrue trivial
  | .responseHeaderModifier _ => isTrue trivial
  | .requestRedirect _ => isTrue trivial
  | .urlRewriter _ => isTrue trivial
  | .requestMirror _ => isTrue trivial
  | .cors _ => isTrue trivial

def plainRule : RouteRule where
  hostnames := ["app.example.com"]
  backends := [chatBackendRef]

/-- The request for the chat room with a signal from the client. -/
def signalled (upgrade signal : List String) : ProxyRequest :=
  { chatRequest upgrade with
    header := fun name =>
      if name = "X-Proxy-Host-Rewritten" then signal else (chatRequest upgrade).header name }

def signalledHead (rule : RouteRule) (upgrade signal : List String) : Option (Bool × RoutingHead) :=
  (compileRoutingTable GoLib.literal .stable ⟨1, [rule], false⟩).toOption.bind fun table =>
    (serveHTTP GoLib.literal table (fun _ => 0) (signalled upgrade signal)).head

theorem sameButSignal_signalled (upgrade signal signal' : List String) :
    SameButSignal (signalled upgrade signal) (signalled upgrade signal') where
  method := rfl
  host := rfl
  path := rfl
  query := rfl
  rawPath := rfl
  rawQuery := rfl
  forceQuery := rfl
  header key hkey := by
    have hne : key ≠ "X-Proxy-Host-Rewritten" := by
      intro heq
      rw [heq] at hkey
      exact hkey (by decide +kernel)
    simp only [signalled, if_neg hne]

/-- With the header a client has its request forwarded under the Host of the
edge, and on an upgrade the header itself gets through. -/
theorem client_signal_suppresses_host :
    (IgnoresSignal plainRule ∧ plainRule.filters = [] ∧ chatBackendRef.filters = []) ∧
      signalledHead plainRule [] [] =
        some (false, ⟨"app.example.com", "/rooms/a%2Fb", none, [], []⟩) ∧
      signalledHead plainRule [] ["1"] =
        some (false, ⟨"edge.example.net", "/rooms/a%2Fb", none, [], []⟩) ∧
      signalledHead plainRule ["upgrade"] [] ≠ signalledHead plainRule ["upgrade"] ["1"] := by
  decide +kernel

/-- Both signals are overwritten when the rule rewrites the hostname. -/
theorem rewritten_chat_signal_inert :
    ∃ table ra rb fa fb,
      compileRoutingTable .literal .stable ⟨1, [chatRule], false⟩ = .ok table ∧
      route .literal table (fun _ => 0) (signalled [] []).toRequest = some ra ∧
      route .literal table (fun _ => 0) (signalled [] ["1"]).toRequest = some rb ∧
      filteredRequest ra (signalled [] []) = .next fa ∧
      filteredRequest rb (signalled [] ["1"]) = .next fb ∧ ForwardedAlike fa fb := by
  have hrun : ((compileRoutingTable .literal .stable ⟨1, [chatRule], false⟩).toOption.bind
      fun table => (route .literal table (fun _ => 0) (signalled [] []).toRequest).bind
      fun ra => (route .literal table (fun _ => 0) (signalled [] ["1"]).toRequest).bind
      fun rb => (filteredRequest ra (signalled [] [])).passed.bind
      fun _ => (filteredRequest rb (signalled [] ["1"])).passed.bind
      fun _ => some (decide ((IgnoresSignal ra.rule ∧ ∀ f ∈ resultFilters ra, LeavesSignal f) ∧
        (IgnoresSignal rb.rule ∧ ∀ f ∈ resultFilters rb, LeavesSignal f) ∧
        (resultFilters ra).any rewritesHost = true))) = some true := by
    decide +kernel
  obtain ⟨table, htable, hrun⟩ := Option.bind_eq_some_iff.mp hrun
  obtain ⟨ra, ha, hrun⟩ := Option.bind_eq_some_iff.mp hrun
  obtain ⟨rb, hb, hrun⟩ := Option.bind_eq_some_iff.mp hrun
  obtain ⟨fa, hfa, hrun⟩ := Option.bind_eq_some_iff.mp hrun
  obtain ⟨fb, hfb, hrun⟩ := Option.bind_eq_some_iff.mp hrun
  obtain ⟨⟨hia, hla⟩, ⟨hib, hlb⟩, hrewrites⟩ := of_decide_eq_true (Option.some.inj hrun)
  have hcompile := (toOption_eq_some _ _).mp htable
  rw [FilterOutcome.passed_eq_some] at hfa hfb
  exact ⟨table, ra, rb, fa, fb, hcompile, ha, hb, hfa, hfb,
    (signal_inert_iff hcompile (sameButSignal_signalled [] [] ["1"]) ha hb ⟨hia, hla⟩ ⟨hib, hlb⟩
      hfa hfb).1.mpr (Or.inl hrewrites)⟩

end EndToEnd

end TunnelGateway.HostSignal
