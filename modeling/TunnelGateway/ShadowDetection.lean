import TunnelGateway.BestByKey
import TunnelGateway.DedupBy
import TunnelGateway.JsonText
import TunnelGateway.RouteDiagnostics
import TunnelGateway.RoutingOptimality

/-!
Detection of rules that a rule of another route shadows. Every rule claims its
pairs of hostname and match; a pair goes to the claimant that the router would
try first, and every other claimant of another route is reported. Pairs are
compared by lower-cased hostname and by the JSON text of the match once its
header names are lower-cased and its lists sorted, and the question is whether
that comparison agrees with the buckets and the order of the router.
-/
namespace TunnelGateway.ShadowDetection

open GoText ProxyConfig Matcher Router RoutingOptimality JsonText DedupBy BestByKey
open GatewayApi RouteConversion RouteDiagnostics

section Keys

/-- `slices.SortFunc` with a comparison of string keys: sorted, in any order
among elements with equal keys. -/
structure SortFunc where
  sort : {α : Type} → (α → String) → List α → List α
  perm : ∀ {α : Type} (key : α → String) (l : List α), (sort key l).Perm l
  sorted : ∀ {α : Type} (key : α → String) (l : List α),
    (sort key l).Pairwise (fun a b => key a ≤ key b)

/-- One such sort. -/
def SortFunc.stable : SortFunc where
  sort key l := l.insertionSort (fun a b => key a ≤ key b)
  perm _ l := List.perm_insertionSort _ l
  sorted {α} key l :=
    haveI : Std.Total (fun a b : α => key a ≤ key b) :=
      ⟨fun a b => String.le_total (key a) (key b)⟩
    haveI : IsTrans α (fun a b => key a ≤ key b) := ⟨fun _ _ _ hab hbc => String.le_trans hab hbc⟩
    List.pairwise_insertionSort _ l

structure ShadowKey where
  hostname : String
  matchKey : String
  deriving DecidableEq

def pathTypeText : PathMatchType → String
  | .exact => "Exact"
  | .pathPrefix => "PathPrefix"
  | .regularExpression => "RegularExpression"
  | .other value => value

def valueTypeText : ValueMatchType → String
  | .exact => "Exact"
  | .regularExpression => "RegularExpression"
  | .other value => value

/-- The key by which header and query matches are sorted. -/
def sortKey (name : String) (type : ValueMatchType) (value : String) : String :=
  name ++ "\x00" ++ valueTypeText type ++ "\x00" ++ value

def headerSortKey (hm : HeaderMatch) : String := sortKey hm.name hm.type hm.value

def querySortKey (qm : QueryParamMatch) : String := sortKey qm.name qm.type qm.value

variable (lib : GoLib) (sorts : SortFunc)

def lowerHeaderName (hm : HeaderMatch) : HeaderMatch := { hm with name := toLower lib hm.name }

def normalizeHeaderMatches (headers : List HeaderMatch) : List HeaderMatch :=
  sorts.sort headerSortKey (headers.map (lowerHeaderName lib))

def normalizeQueryMatches (params : List QueryParamMatch) : List QueryParamMatch :=
  sorts.sort querySortKey params

def pathJson (pm : PathMatch) : Json :=
  .obj [("type", .str (pathTypeText pm.type)), ("value", .str pm.value)]

def valueJson (type : ValueMatchType) (name value : String) : Json :=
  .obj [("type", .str (valueTypeText type)), ("name", .str name), ("value", .str value)]

def arrayJson (items : List Json) : Option Json := if items = [] then none else some (.arr items)

def matchFields (m : RouteMatch) : List (String × Option Json) :=
  [("path", m.path.map pathJson),
    ("headers", arrayJson (m.headers.map fun hm => valueJson hm.type hm.name hm.value)),
    ("queryParams", arrayJson (m.queryParams.map fun qm => valueJson qm.type qm.name qm.value)),
    ("method", if m.method = "" then none else some (.str m.method))]

def matchJson (m : RouteMatch) : Json := .obj (omitEmpty (matchFields m))

def normalizeMatch (m : RouteMatch) : RouteMatch :=
  { m with
    headers := normalizeHeaderMatches lib sorts m.headers
    queryParams := normalizeQueryMatches sorts m.queryParams }

/-- Marshalling plain data does not fail. -/
def canonicalMatchKey (m : RouteMatch) : String :=
  String.ofList (text (matchJson (normalizeMatch lib sorts m)))

def catchAllKey : String := "catch-all"

def ruleMatchKeys (rule : RouteRule) : List String :=
  if rule.routeMatches = [] then [catchAllKey]
  else rule.routeMatches.map (canonicalMatchKey lib sorts)

/-- The pairs a rule claims; the default bucket stands under the empty hostname. -/
def ruleShadowKeys (rule : RouteRule) : List ShadowKey :=
  (if rule.hostnames = [] then [""] else rule.hostnames).flatMap fun hostname =>
    (ruleMatchKeys lib sorts rule).map fun matchKey => ⟨toLower lib hostname, matchKey⟩

end Keys

section Detection

structure ShadowClaimant where
  provenance : RuleProvenance
  priority : ℕ
  flatIdx : ℕ
  deriving DecidableEq

/-- The router tries `c` before `other`. -/
def ShadowClaimant.Beats (c other : ShadowClaimant) : Prop :=
  if c.priority ≠ other.priority then other.priority < c.priority else c.flatIdx < other.flatIdx

instance : DecidableRel ShadowClaimant.Beats := fun c other => by
  unfold ShadowClaimant.Beats
  infer_instance

structure ShadowClaim where
  key : ShadowKey
  claimant : ShadowClaimant
  deriving DecidableEq

def sameRoute (p other : RuleProvenance) : Bool :=
  p.kind == other.kind && p.ns == other.ns && p.name == other.name

def RuleProvenance.text (p : RuleProvenance) : String :=
  p.kind.name ++ " " ++ p.ns ++ "/" ++ p.name ++ " rule " ++ toString p.ruleIndex

/-- The criterion that decided a collision. -/
def shadowBasis (winner loser : ShadowClaimant) : String :=
  if winner.priority ≠ loser.priority then
    "higher match specificity — the winning rule's most specific match ranks the whole rule " ++
      "above this one"
  else if winner.provenance.kind = .HTTPRoute ∧ loser.provenance.kind = .GRPCRoute then
    "HTTPRoute rules precede GRPCRoute rules in the generated configuration"
  else if winner.provenance.creationTimestamp < loser.provenance.creationTimestamp then
    "older creationTimestamp"
  else if winner.provenance.creationTimestamp = loser.provenance.creationTimestamp ∧
      (winner.provenance.ns < loser.provenance.ns ∨
        (winner.provenance.ns = loser.provenance.ns ∧
          winner.provenance.name < loser.provenance.name)) then
    "alphabetical \x7bnamespace\x7d/\x7bname\x7d precedence"
  else "earlier position in the generated configuration order"

def shadowedMessage (loser : ShadowClaimant) (key : ShadowKey) (winner : ShadowClaimant) :
    String :=
  let hostname := if key.hostname = "" then "<any>" else key.hostname
  "rule " ++ toString loser.provenance.ruleIndex ++ " match (host " ++ hostname.quote ++
    ", match " ++ key.matchKey ++ ") is shadowed by " ++ RuleProvenance.text winner.provenance ++
    " (" ++ shadowBasis winner loser ++ "); matching requests are served by that route. " ++
    "This route remains Accepted. Resolve by removing the duplicate match or scoping hostnames " ++
    "per tenant."

/-- A losing claim beside the claimant it loses to. -/
structure Shadowing where
  claim : ShadowClaim
  winner : ShadowClaimant
  deriving DecidableEq

/-- The diagnostic goes to the losing route. -/
def Shadowing.diagnostic (s : Shadowing) : RouteDiagnostic where
  ns := s.claim.claimant.provenance.ns
  name := s.claim.claimant.provenance.name
  ruleIndex := s.claim.claimant.provenance.ruleIndex
  target := .shadowed
  reason := "HostnameMatchShadowed"
  message := shadowedMessage s.claim.claimant s.claim.key s.winner

/-- What identifies a diagnostic among those of one run. -/
def Shadowing.emitted (s : Shadowing) : ℕ × ShadowKey := (s.claim.claimant.flatIdx, s.claim.key)

/-- A claim loses unless it is the winning one or one of the same route; every
claimed key has a winner. -/
def losesTo (winners : ShadowKey → Option ShadowClaimant) (claim : ShadowClaim) :
    Option Shadowing :=
  (winners claim.key).bind fun winner =>
    if winner.flatIdx = claim.claimant.flatIdx then none
    else if sameRoute winner.provenance claim.claimant.provenance then none
    else some ⟨claim, winner⟩

def winnersOf (claims : List ShadowClaim) : ShadowKey → Option ShadowClaimant :=
  bestByKey ShadowClaimant.Beats (claims.map fun claim => (claim.key, claim.claimant))

/-- The losing claims, one for each rule and key. -/
def shadowings (claims : List ShadowClaim) : List Shadowing :=
  dedupBy Shadowing.emitted [] (claims.filterMap (losesTo (winnersOf claims)))

def shadowDiagnostics (claims : List ShadowClaim) : List RouteDiagnostic :=
  (shadowings claims).map Shadowing.diagnostic

variable (lib : GoLib) (sorts : SortFunc)

def claimant (flatIdx : ℕ) (provenance : RuleProvenance) (rule : RouteRule) : ShadowClaimant :=
  ⟨provenance, computePriority rule, flatIdx⟩

def claimsOf (flatIdx : ℕ) (provenance : RuleProvenance) (rule : RouteRule) : List ShadowClaim :=
  (ruleShadowKeys lib sorts rule).map fun key => ⟨key, claimant flatIdx provenance rule⟩

def shadowClaims (provenance : List RuleProvenance) (cfg : Config) : List ShadowClaim :=
  (provenance.zip cfg.rules).zipIdx.flatMap fun entry =>
    claimsOf lib sorts entry.2 entry.1.1 entry.1.2

/-- A configuration without provenance for every rule yields nothing. -/
def detectShadowedRules (provenance : List RuleProvenance) (cfg : Config) :
    List RouteDiagnostic :=
  if provenance.length ≠ cfg.rules.length then []
  else shadowDiagnostics (shadowClaims lib sorts provenance cfg)

end Detection

section CanonicalMatch

/-- The types of a match are declared ones, so that their texts tell them apart. -/
structure DeclaredTypes (m : RouteMatch) : Prop where
  pathType : ∀ pm ∈ m.path, ∀ value, pm.type ≠ .other value
  headerType : ∀ hm ∈ m.headers, ∀ value, hm.type ≠ .other value
  queryType : ∀ qm ∈ m.queryParams, ∀ value, qm.type ≠ .other value

/-- A match as routes can express it: declared match types, header names that
are tokens and query names without a zero byte. -/
structure WellFormedMatch (m : RouteMatch) : Prop extends DeclaredTypes m where
  headerName : ∀ hm ∈ m.headers, isToken hm.name = true
  queryName : ∀ qm ∈ m.queryParams, Char.ofNat 0 ∉ qm.name.toList

/-- Equal up to the order of header and query matches and the case of header
names. -/
structure SameMatch (lib : GoLib) (m n : RouteMatch) : Prop where
  path : m.path = n.path
  method : m.method = n.method
  headers : (m.headers.map (lowerHeaderName lib)).Perm (n.headers.map (lowerHeaderName lib))
  queryParams : m.queryParams.Perm n.queryParams

theorem pathTypeText_inj {s t : PathMatchType} (hs : ∀ value, s ≠ .other value)
    (ht : ∀ value, t ≠ .other value) (h : pathTypeText s = pathTypeText t) : s = t := by
  cases s <;> cases t <;> simp_all [pathTypeText]

variable {t type type' : ValueMatchType} {name name' value value' : String}

theorem valueTypeText_inj {s : ValueMatchType} (hs : ∀ value, s ≠ .other value)
    (ht : ∀ value, t ≠ .other value) (h : valueTypeText s = valueTypeText t) : s = t := by
  cases s <;> cases t <;> simp_all [valueTypeText]

theorem valueTypeText_zero (ht : ∀ value, t ≠ .other value) :
    Char.ofNat 0 ∉ (valueTypeText t).toList := by
  cases t with
  | exact => decide
  | regularExpression => decide
  | other value => exact absurd rfl (ht value)

theorem append_separator_inj {sep : Char} : ∀ {a b r s : List Char}, sep ∉ a → sep ∉ b →
    a ++ sep :: r = b ++ sep :: s → a = b ∧ r = s
  | [], [], _, _, _, _, h => by simpa using h
  | [], d :: b, _, _, _, hb, h => by simp_all
  | c :: a, [], _, _, ha, _, h => by simp_all
  | c :: a, d :: b, r, s, ha, hb, h => by
      rw [List.cons_append, List.cons_append, List.cons.injEq] at h
      obtain ⟨hab, hrs⟩ := append_separator_inj (fun hmem => ha (List.mem_cons_of_mem _ hmem))
        (fun hmem => hb (List.mem_cons_of_mem _ hmem)) h.2
      exact ⟨by rw [h.1, hab], hrs⟩

/-- The zero bytes separate the parts of a sort key. -/
theorem sortKey_inj (hname : Char.ofNat 0 ∉ name.toList) (hname' : Char.ofNat 0 ∉ name'.toList)
    (htype : ∀ v, type ≠ .other v) (htype' : ∀ v, type' ≠ .other v)
    (h : sortKey name type value = sortKey name' type' value') :
    name = name' ∧ type = type' ∧ value = value' := by
  have hsep : "\x00".toList = [Char.ofNat 0] := rfl
  have hlist := congrArg String.toList h
  simp only [sortKey, String.toList_append, List.append_assoc] at hlist
  obtain ⟨hnames, hrest⟩ := append_separator_inj hname hname' hlist
  obtain ⟨htypes, hvalues⟩ :=
    append_separator_inj (valueTypeText_zero htype) (valueTypeText_zero htype') hrest
  exact ⟨String.toList_inj.mp hnames,
    valueTypeText_inj htype htype' (String.toList_inj.mp htypes), String.toList_inj.mp hvalues⟩

variable (lib : GoLib) (sorts : SortFunc)

variable {α : Type} {l l' : List α} {key : α → String} {m n : RouteMatch}
  {headers : List HeaderMatch}

/-- Sorting by a key that tells the elements apart forgets their order. -/
theorem SortFunc.sort_eq_of_perm (hperm : l.Perm l')
    (hkey : ∀ a ∈ l, ∀ b ∈ l', key a = key b → a = b) : sorts.sort key l = sorts.sort key l' := by
  refine List.Perm.eq_of_pairwise ?_ (sorts.sorted key l) (sorts.sorted key l')
    ((sorts.perm key l).trans (hperm.trans (sorts.perm key l').symm))
  intro a b ha hb hab hba
  exact hkey a ((sorts.perm key l).mem_iff.mp ha) b ((sorts.perm key l').mem_iff.mp hb)
    (String.le_antisymm hab hba)

theorem SortFunc.perm_of_sort_eq (h : sorts.sort key l = sorts.sort key l') : l.Perm l' :=
  (sorts.perm key l).symm.trans (h ▸ sorts.perm key l')

theorem pathJson_inj {p q : PathMatch} (hp : ∀ value, p.type ≠ .other value)
    (hq : ∀ value, q.type ≠ .other value) (h : pathJson p = pathJson q) : p = q := by
  obtain ⟨ptype, pvalue⟩ := p
  obtain ⟨qtype, qvalue⟩ := q
  simp only [pathJson, Json.obj.injEq, List.cons.injEq, Prod.mk.injEq, Json.str.injEq, true_and,
    and_true] at h
  have htype : ptype = qtype := pathTypeText_inj hp hq h.1
  rw [htype, h.2]

theorem valueJson_inj (htype : ∀ v, type ≠ .other v) (htype' : ∀ v, type' ≠ .other v)
    (h : valueJson type name value = valueJson type' name' value') :
    type = type' ∧ name = name' ∧ value = value' := by
  simp only [valueJson, Json.obj.injEq, List.cons.injEq, Prod.mk.injEq, Json.str.injEq, true_and,
    and_true] at h
  exact ⟨valueTypeText_inj htype htype' h.1, h.2⟩

theorem map_eq_map_of_inj {β : Type} {f : α → β} : ∀ {l l' : List α},
    (∀ a ∈ l, ∀ b ∈ l', f a = f b → a = b) → l.map f = l'.map f → l = l'
  | [], [], _, _ => rfl
  | [], _ :: _, _, h => by simp at h
  | _ :: _, [], _, h => by simp at h
  | a :: l, b :: l', hinj, h => by
      rw [List.map_cons, List.map_cons, List.cons.injEq] at h
      have hrest : ∀ a ∈ l, ∀ b ∈ l', f a = f b → a = b := fun a ha b hb =>
        hinj a (List.mem_cons_of_mem _ ha) b (List.mem_cons_of_mem _ hb)
      rw [hinj a List.mem_cons_self b List.mem_cons_self h.1, map_eq_map_of_inj hrest h.2]

theorem arrayJson_inj {a b : List Json} (h : arrayJson a = arrayJson b) : a = b := by
  unfold arrayJson at h
  by_cases ha : a = [] <;> by_cases hb : b = [] <;> simp_all

theorem matchJson_inj (hm : DeclaredTypes m) (hn : DeclaredTypes n)
    (h : matchJson m = matchJson n) : m = n := by
  have hfields : matchFields m = matchFields n :=
    omitEmpty_inj rfl (by decide : ["path", "headers", "queryParams", "method"].Nodup)
      (Json.obj.inj h)
  simp only [matchFields, List.cons.injEq, Prod.mk.injEq, true_and] at hfields
  obtain ⟨hpath, hheaders, hquery, hmethod⟩ := hfields
  obtain ⟨mpath, mheaders, mquery, mmethod⟩ := m
  obtain ⟨npath, nheaders, nquery, nmethod⟩ := n
  congr 1
  · cases mpath with
    | none => exact (Option.map_eq_none_iff.mp hpath.symm).symm
    | some pm =>
      obtain ⟨pn, hpn, hjson⟩ := Option.map_eq_some_iff.mp hpath.symm
      have hsame : pn = pm := pathJson_inj (hn.pathType pn hpn) (hm.pathType pm rfl) hjson
      rw [← hsame]
      exact hpn.symm
  · apply map_eq_map_of_inj _ (arrayJson_inj hheaders)
    intro a ha b hb hab
    obtain ⟨htype, hname, hvalue⟩ := valueJson_inj (hm.headerType a ha) (hn.headerType b hb) hab
    cases a
    simp_all
  · apply map_eq_map_of_inj _ (arrayJson_inj hquery)
    intro a ha b hb hab
    obtain ⟨htype, hname, hvalue⟩ := valueJson_inj (hm.queryType a ha) (hn.queryType b hb) hab
    cases a
    simp_all
  · by_cases hempty : mmethod = "" <;> by_cases hempty' : nmethod = "" <;> simp_all

theorem declaredTypes_normalizeMatch (h : DeclaredTypes m) :
    DeclaredTypes (normalizeMatch lib sorts m) := by
  refine ⟨h.pathType, ?_, ?_⟩
  · intro hm hmem
    obtain ⟨original, horiginal, rfl⟩ := List.mem_map.mp ((sorts.perm _ _).mem_iff.mp hmem)
    exact h.headerType original horiginal
  · intro qm hmem
    exact h.queryType qm ((sorts.perm _ _).mem_iff.mp hmem)

theorem zero_not_mem_of_isToken (h : isToken name = true) : Char.ofNat 0 ∉ name.toList := by
  intro hmem
  have hzero := List.all_eq_true.mp h _ hmem
  revert hzero
  decide

/-- The key identifies matches up to order and case of header names. -/
theorem canonicalMatchKey_eq_iff (hm : WellFormedMatch m) (hn : WellFormedMatch n) :
    canonicalMatchKey lib sorts m = canonicalMatchKey lib sorts n ↔ SameMatch lib m n := by
  constructor
  · intro h
    have hjson := text_injective (String.ofList_injective h)
    have hnorm := matchJson_inj (declaredTypes_normalizeMatch lib sorts hm.toDeclaredTypes)
      (declaredTypes_normalizeMatch lib sorts hn.toDeclaredTypes) hjson
    simp only [normalizeMatch, RouteMatch.mk.injEq] at hnorm
    obtain ⟨hpath, hheaders, hquery, hmethod⟩ := hnorm
    exact ⟨hpath, hmethod, sorts.perm_of_sort_eq hheaders, sorts.perm_of_sort_eq hquery⟩
  · intro h
    have hheaders : normalizeHeaderMatches lib sorts m.headers =
        normalizeHeaderMatches lib sorts n.headers := by
      apply sorts.sort_eq_of_perm h.headers
      intro a' ha' b' hb' hkey
      obtain ⟨a, ha, rfl⟩ := List.mem_map.mp ha'
      obtain ⟨b, hb, rfl⟩ := List.mem_map.mp hb'
      have hza := zero_not_mem_of_isToken (isToken_toLower lib (hm.headerName a ha))
      have hzb := zero_not_mem_of_isToken (isToken_toLower lib (hn.headerName b hb))
      obtain ⟨hname, htype, hvalue⟩ :=
        sortKey_inj hza hzb (hm.headerType a ha) (hn.headerType b hb) hkey
      have hvalue : a.value = b.value := hvalue
      rw [lowerHeaderName, lowerHeaderName, hname, htype, hvalue]
    have hquery : normalizeQueryMatches sorts m.queryParams =
        normalizeQueryMatches sorts n.queryParams := by
      apply sorts.sort_eq_of_perm h.queryParams
      intro a ha b hb hkey
      obtain ⟨hname, htype, hvalue⟩ := sortKey_inj (hm.queryName a ha) (hn.queryName b hb)
        (hm.queryType a ha) (hn.queryType b hb) hkey
      cases a
      simp_all
    unfold canonicalMatchKey normalizeMatch
    rw [hheaders, hquery, h.path, h.method]

/-- The text of an object is not the word for a rule without matches. -/
theorem canonicalMatchKey_ne_catchAll (m : RouteMatch) :
    canonicalMatchKey lib sorts m ≠ catchAllKey := by
  intro h
  have hhead := text_head (matchJson (normalizeMatch lib sorts m)) []
  have htext : text (matchJson (normalizeMatch lib sorts m)) = catchAllKey.toList := by
    rw [← h, canonicalMatchKey, String.toList_ofList]
  have hopen : opening (matchJson (normalizeMatch lib sorts m)) = Char.ofNat 123 := rfl
  rw [htext, hopen] at hhead
  revert hhead
  decide

private theorem all_headers_lower (req : Request) (h : ∀ hm ∈ headers, isToken hm.name = true) :
    headers.all (fun hm => valueSatisfied lib hm.type hm.value (req.header.values hm.name)) =
      (headers.map (lowerHeaderName lib)).all fun hm =>
        valueSatisfied lib hm.type hm.value (req.header.values hm.name) := by
  rw [Bool.eq_iff_iff, List.all_eq_true, List.all_eq_true, List.forall_mem_map]
  refine forall₂_congr fun hm hmem => ?_
  rw [lowerHeaderName, Header.values, Header.values, canonicalHeaderKey_toLower lib (h hm hmem)]

/-- Matches with one key hold for the same requests. -/
theorem satisfied_eq_of_sameMatch (req : Request) (hm : WellFormedMatch m)
    (hn : WellFormedMatch n) (h : SameMatch lib m n) :
    satisfied lib req m = satisfied lib req n := by
  rw [satisfied, satisfied, h.path, h.method, all_headers_lower lib req hm.headerName,
    all_headers_lower lib req hn.headerName, h.headers.all_eq, h.queryParams.all_eq]

end CanonicalMatch

section Claims

variable (lib : GoLib) (sorts : SortFunc)

theorem toLower_eq_empty_iff (s : String) : toLower lib s = "" ↔ s = "" := by
  rw [← String.toList_inj]
  simp

variable {rule : RouteRule} {key : ShadowKey} {cfg : Config} {provenance : List RuleProvenance}
  {claim : ShadowClaim}

theorem mem_ruleMatchKeys {matchKey : String} :
    matchKey ∈ ruleMatchKeys lib sorts rule ↔
      (rule.routeMatches = [] ∧ matchKey = catchAllKey) ∨
      ∃ m ∈ rule.routeMatches, canonicalMatchKey lib sorts m = matchKey := by
  unfold ruleMatchKeys
  by_cases hnone : rule.routeMatches = [] <;> simp [hnone]

theorem mem_ruleShadowKeys :
    key ∈ ruleShadowKeys lib sorts rule ↔
      ((rule.hostnames = [] ∧ key.hostname = "") ∨
        ∃ hostname ∈ rule.hostnames, toLower lib hostname = key.hostname) ∧
      key.matchKey ∈ ruleMatchKeys lib sorts rule := by
  obtain ⟨host, matchKey⟩ := key
  have hempty : toLower lib "" = "" := (toLower_eq_empty_iff lib "").mpr rfl
  unfold ruleShadowKeys
  by_cases hnone : rule.hostnames = []
  · simp [hnone, hempty, and_comm]
  · simp [hnone]
    aesop

theorem mem_shadowClaims :
    claim ∈ shadowClaims lib sorts provenance cfg ↔
      ∃ idx p rule, provenance[idx]? = some p ∧ cfg.rules[idx]? = some rule ∧
        claim.claimant = claimant idx p rule ∧ claim.key ∈ ruleShadowKeys lib sorts rule := by
  unfold shadowClaims
  rw [List.mem_flatMap]
  constructor
  · intro h
    obtain ⟨⟨⟨p, rule⟩, idx⟩, hentry, hclaim⟩ := h
    have hzip := List.getElem?_zip_eq_some.mp (List.mk_mem_zipIdx_iff_getElem?.mp hentry)
    obtain ⟨key, hkey, rfl⟩ := List.mem_map.mp hclaim
    exact ⟨idx, p, rule, hzip.1, hzip.2, rfl, hkey⟩
  · intro h
    obtain ⟨idx, p, rule, hp, hrule, hclaimant, hkey⟩ := h
    have hzip : (provenance.zip cfg.rules)[idx]? = some (p, rule) :=
      List.getElem?_zip_eq_some.mpr ⟨hp, hrule⟩
    refine ⟨((p, rule), idx), List.mk_mem_zipIdx_iff_getElem?.mpr hzip, ?_⟩
    refine List.mem_map.mpr ⟨claim.key, hkey, ?_⟩
    rw [← hclaimant]

theorem priority_of_mem_shadowClaims (h : claim ∈ shadowClaims lib sorts provenance cfg)
    (hrule : cfg.rules[claim.claimant.flatIdx]? = some rule) :
    claim.claimant.priority = computePriority rule := by
  obtain ⟨idx, p, rule', -, hrule', hclaimant, -⟩ := (mem_shadowClaims lib sorts).mp h
  rw [hclaimant] at hrule ⊢
  have hsame : some rule' = some rule := hrule'.symm.trans hrule
  rw [Option.some.inj hsame]
  rfl

instance : IsStrictOrder ShadowClaimant ShadowClaimant.Beats where
  irrefl c := by
    unfold ShadowClaimant.Beats
    simp
  trans a b c := by
    unfold ShadowClaimant.Beats
    split <;> split <;> split <;> omega

variable {claims : List ShadowClaim} {s : Shadowing} {winner : ShadowClaimant}

/-- The losing claims, with repetitions. -/
def losing (claims : List ShadowClaim) : List Shadowing :=
  claims.filterMap (losesTo (winnersOf claims))

/-- A losing claim, and the winner nobody beats. -/
theorem mem_losing :
    s ∈ losing claims ↔
      s.claim ∈ claims ∧ winnersOf claims s.claim.key = some s.winner ∧
      s.winner.flatIdx ≠ s.claim.claimant.flatIdx ∧
      sameRoute s.winner.provenance s.claim.claimant.provenance = false := by
  obtain ⟨claim, winner⟩ := s
  rw [losing, List.mem_filterMap]
  constructor
  · rintro ⟨claim', hclaim, hloses⟩
    obtain ⟨winner', hwinner, hcond⟩ := Option.bind_eq_some_iff.mp hloses
    rw [Option.ite_none_left_eq_some, Option.ite_none_left_eq_some, Option.some.injEq] at hcond
    obtain ⟨hidx, hroute, rfl, rfl⟩ := hcond
    exact ⟨hclaim, hwinner, hidx, by simpa using hroute⟩
  · intro h
    obtain ⟨hclaim, hwinner, hidx, hroute⟩ := h
    refine ⟨claim, hclaim, ?_⟩
    simp [losesTo, hwinner, hidx, hroute]

theorem best_winnersOf (claims : List ShadowClaim) :
    Best ShadowClaimant.Beats (claims.map fun claim => (claim.key, claim.claimant))
      (winnersOf claims) :=
  best_bestByKey _

theorem mem_of_winnersOf (h : winnersOf claims key = some winner) :
    (⟨key, winner⟩ : ShadowClaim) ∈ claims := by
  obtain ⟨claim, hclaim, heq⟩ := List.mem_map.mp ((best_winnersOf claims).mem key winner h)
  rw [Prod.mk.injEq] at heq
  rw [← heq.1, ← heq.2]
  exact hclaim

theorem not_beats_winnersOf (hclaim : claim ∈ claims)
    (h : winnersOf claims claim.key = some winner) : ¬ claim.claimant.Beats winner :=
  (best_winnersOf claims).unbeaten _ _ h _ (List.mem_map.mpr ⟨claim, hclaim, rfl⟩)

theorem exists_winnersOf (hclaim : claim ∈ claims) :
    ∃ winner, winnersOf claims claim.key = some winner := by
  cases hwinner : winnersOf claims claim.key with
  | some winner => exact ⟨winner, rfl⟩
  | none =>
    have habsent := (best_winnersOf claims).absent _ hwinner claim.claimant
    exact absurd (List.mem_map.mpr ⟨claim, hclaim, rfl⟩) habsent

/-- Claims of one run with the same rule and key lose to the same winner. -/
theorem shadowing_eq_of_emitted_eq {t : Shadowing}
    (hs : s ∈ losing (shadowClaims lib sorts provenance cfg))
    (ht : t ∈ losing (shadowClaims lib sorts provenance cfg)) (h : s.emitted = t.emitted) :
    s = t := by
  obtain ⟨hsclaim, hswinner, -⟩ := mem_losing.mp hs
  obtain ⟨htclaim, htwinner, -⟩ := mem_losing.mp ht
  obtain ⟨⟨skey, sclaimant⟩, swinner⟩ := s
  obtain ⟨⟨tkey, tclaimant⟩, twinner⟩ := t
  obtain ⟨i, p, rule, hp, hrule, hi, -⟩ := (mem_shadowClaims lib sorts).mp hsclaim
  obtain ⟨j, q, rule', hq, hrule', hj, -⟩ := (mem_shadowClaims lib sorts).mp htclaim
  simp only at hi hj hswinner htwinner
  subst hi hj
  obtain ⟨rfl, rfl⟩ := h
  rw [hp, Option.some.injEq] at hq
  rw [hrule, Option.some.injEq] at hrule'
  rw [hswinner, Option.some.injEq] at htwinner
  rw [hq, hrule', htwinner]

theorem mem_shadowings :
    s ∈ shadowings (shadowClaims lib sorts provenance cfg) ↔
      s ∈ losing (shadowClaims lib sorts provenance cfg) :=
  mem_dedupBy fun _ hs _ ht h => shadowing_eq_of_emitted_eq lib sorts hs ht h

end Claims

section Agreement

/-- A configuration as routes can express it. -/
structure WellFormed (cfg : Config) : Prop where
  hostnames : ∀ rule ∈ cfg.rules, "" ∉ rule.hostnames
  routeMatches : ∀ rule ∈ cfg.rules, ∀ m ∈ rule.routeMatches, WellFormedMatch m

variable (lib : GoLib) (sorts : SortFunc) {cfg : Config}

variable {other rule : RouteRule} {host : String}

/-- A rule that claims the name of another rule's bucket is filed in it. -/
theorem filed_of_claims {bucket : Bucket} {key : ShadowKey} (hrule : "" ∉ rule.hostnames)
    (hother : "" ∉ other.hostnames) (hfiled : Filed lib host rule bucket)
    (hlabel : bucket.label host = key.hostname) (hkey : key ∈ ruleShadowKeys lib sorts other) :
    Filed lib host other bucket := by
  have hhost := ((mem_ruleShadowKeys lib sorts).mp hkey).1
  rw [← hlabel] at hhost
  have hnonempty : ∀ hostname ∈ rule.hostnames, toLower lib hostname ≠ "" := by
    intro hostname hmem hempty
    rw [(toLower_eq_empty_iff lib hostname).mp hempty] at hmem
    exact hrule hmem
  cases bucket with
  | exact =>
    obtain ⟨hostname, hmem, hstar, heq⟩ := hfiled
    rcases hhost with ⟨-, hempty⟩ | ⟨listed, hlisted, hlower⟩
    · exact absurd (heq.trans hempty) (hnonempty hostname hmem)
    · refine ⟨listed, hlisted, ?_, hlower⟩
      rw [hlower, ← heq]
      exact hstar
  | wildcard suffix =>
    obtain ⟨⟨hostname, hmem, hstar, heq⟩, hsuffix⟩ := hfiled
    have hpattern : toLower lib hostname = "*" ++ suffix := by
      obtain ⟨rest, hrest⟩ := (hasPrefix_iff _ _).mp hstar
      apply String.toList_inj.mp
      rw [← heq, String.toList_append, toList_sliceFrom, ← hrest]
      rfl
    rcases hhost with ⟨-, hempty⟩ | ⟨listed, hlisted, hlower⟩
    · exact absurd (hpattern.trans hempty) (hnonempty hostname hmem)
    · have hsame : toLower lib listed = toLower lib hostname := hlower.trans hpattern.symm
      exact ⟨⟨listed, hlisted, by rw [hsame]; exact hstar, by rw [hsame]; exact heq⟩, hsuffix⟩
  | default =>
    rcases hhost with ⟨hnone, -⟩ | ⟨listed, hlisted, hlower⟩
    · exact hnone
    · rw [(toLower_eq_empty_iff lib listed).mp hlower] at hlisted
      exact absurd hlisted hother

/-- The request satisfies a match of the rule that has this key. -/
def SatisfiesKey (req : Request) (rule : RouteRule) (matchKey : String) : Prop :=
  (rule.routeMatches = [] ∧ matchKey = catchAllKey) ∨
  ∃ m ∈ rule.routeMatches, canonicalMatchKey lib sorts m = matchKey ∧ satisfied lib req m = true

variable {req : Request} {result : RouteResult} {rand : ℕ → ℕ} {provenance : List RuleProvenance}

theorem ruleSatisfied_of_satisfiesKey {matchKey : String}
    (hrule : ∀ m ∈ rule.routeMatches, WellFormedMatch m)
    (hother : ∀ m ∈ other.routeMatches, WellFormedMatch m)
    (hsat : SatisfiesKey lib sorts req rule matchKey)
    (hkey : matchKey ∈ ruleMatchKeys lib sorts other) : RuleSatisfied lib req other := by
  rcases (mem_ruleMatchKeys lib sorts).mp hkey with ⟨hnone, -⟩ | ⟨n, hn, hnkey⟩
  · exact Or.inl hnone
  · rcases hsat with ⟨-, hcatch⟩ | ⟨m, hm, hmkey, hmsat⟩
    · exact absurd (hnkey.trans hcatch) (canonicalMatchKey_ne_catchAll lib sorts n)
    · have hsame := (canonicalMatchKey_eq_iff lib sorts (hrule m hm) (hother n hn)).mp
        (hmkey.trans hnkey.symm)
      rw [satisfied_eq_of_sameMatch lib req (hrule m hm) (hother n hn) hsame] at hmsat
      exact Or.inr ⟨n, hn, hmsat⟩

theorem rank_lt_iff_beats (bucket : Bucket) (c d : ShadowClaimant) :
    rank bucket d.priority d.flatIdx < rank bucket c.priority c.flatIdx ↔ c.Beats d := by
  simp only [rank, Prod.Lex.toLex_lt_toLex, OrderDual.toDual_lt_toDual, true_and]
  unfold ShadowClaimant.Beats
  split <;> omega

/-- The attempt a lookup returns ranks at least as high as every one that fires. -/
theorem findSome_attempt {attempts : List (Bucket × CompiledRule)}
    (hsorted : attempts.Pairwise TriedBefore)
    (hroute : attempts.findSome? (attemptResult rand req host) = some result) :
    ∃ attempt ∈ attempts, attemptResult rand req host attempt = some result ∧
      ∀ other ∈ attempts, fires req other.2 = true →
        rank other.1 other.2.priority other.2.ruleIndex ≤
          rank attempt.1 attempt.2.priority attempt.2.ruleIndex := by
  obtain ⟨before, attempt, after, hsplit, hresult, hearlier⟩ :=
    List.findSome?_eq_some_iff.mp hroute
  refine ⟨attempt, by simp [hsplit], hresult, ?_⟩
  intro other hmem hfires
  rw [hsplit] at hmem hsorted
  rcases List.mem_append.mp hmem with hbefore | hmem
  · have hnone := hearlier _ hbefore
    rw [attemptResult, Option.map_eq_none_iff] at hnone
    rw [fires, hnone] at hfires
    cases hfires
  · rcases List.mem_cons.mp hmem with heq | hafter
    · rw [heq]
    · have hpairwise := (List.pairwise_append.mp hsorted).2.1
      exact (List.pairwise_cons.mp hpairwise).1 _ hafter

/-- A rule that loses a pair is not returned through the bucket of its hostname
for a request that satisfies the match. -/
theorem not_routed_of_shadowing {order : WildcardOrder} (hcfg : WellFormed cfg) {s : Shadowing}
    (hs : s ∈ shadowings (shadowClaims lib sorts provenance cfg)) {table : RoutingTable}
    (htable : compileRoutingTable lib order cfg = .ok table)
    (hrule : cfg.rules[s.claim.claimant.flatIdx]? = some rule)
    (hsat : SatisfiesKey lib sorts req rule s.claim.key.matchKey)
    (hroute : route lib table rand req = some result)
    (hindex : result.ruleIndex = s.claim.claimant.flatIdx) :
    result.matchedHostname ≠ s.claim.key.hostname := by
  intro hhost
  obtain ⟨hclaim, hwinner, hidx, -⟩ :=
    mem_losing.mp ((mem_shadowings lib sorts).mp hs)
  have hwclaim := mem_of_winnersOf hwinner
  obtain ⟨w, q, other, -, hother, hwclaimant, hwkey⟩ := (mem_shadowClaims lib sorts).mp hwclaim
  have hwIndex : s.winner.flatIdx = w := congrArg ShadowClaimant.flatIdx hwclaimant
  have hruleMem := List.mem_of_getElem? hrule
  have hotherMem := List.mem_of_getElem? hother
  obtain ⟨compiled, hcompiled, htable⟩ := (Fallible.bind_eq_ok _ _ _).mp htable
  cases htable
  obtain ⟨hfrom, hexists⟩ := mem_compiled lib req hcompiled
  obtain ⟨cw, hcw, hcwIndex, rfl⟩ := hexists w other hother
  rw [route_eq_findSome] at hroute
  obtain ⟨⟨bucket, c⟩, hattempt, hresult, hbest⟩ :=
    findSome_attempt (attempts_pairwise lib order _ compiled (extractHost lib req)) hroute
  obtain ⟨hc, hfiled⟩ := (mem_attempts lib order _ compiled _ bucket c).mp hattempt
  obtain ⟨matchIdx, -, rfl⟩ := Option.map_eq_some_iff.mp hresult
  have hcIndex : c.ruleIndex = s.claim.claimant.flatIdx := hindex
  have hcRule : c.rule = rule := by
    have hlisted := (hfrom c hc).1
    rw [hcIndex, hrule, Option.some.injEq] at hlisted
    exact hlisted.symm
  -- The winner stands in the same bucket and fires, so it ranks no higher than
  -- the rule returned; but it beats that rule.
  have hotherFiled : Filed lib (extractHost lib req) cw.rule bucket := by
    rw [hcRule] at hfiled
    exact filed_of_claims lib sorts (hcfg.hostnames rule hruleMem)
      (hcfg.hostnames cw.rule hotherMem) hfiled hhost hwkey
  have hotherFires : fires req cw = true := by
    apply ((hfrom cw hcw).2.fires_iff).mpr
    exact ruleSatisfied_of_satisfiesKey lib sorts (hcfg.routeMatches rule hruleMem)
      (hcfg.routeMatches cw.rule hotherMem) hsat ((mem_ruleShadowKeys lib sorts).mp hwkey).2
  have hrank := hbest (bucket, cw) ((mem_attempts lib order _ compiled _ bucket cw).mpr
    ⟨hcw, hotherFiled⟩) hotherFires
  have hbeats : s.winner.Beats s.claim.claimant := by
    have hnot := not_beats_winnersOf hclaim hwinner
    unfold ShadowClaimant.Beats at hnot ⊢
    split at hnot <;> split <;> omega
  have hlt := (rank_lt_iff_beats bucket _ _).mpr hbeats
  have hwPriority : s.winner.priority = cw.priority := by
    rw [(hfrom cw hcw).2.priority_eq]
    exact priority_of_mem_shadowClaims lib sorts hwclaim (hwIndex ▸ hother)
  have hcPriority : s.claim.claimant.priority = c.priority := by
    rw [(hfrom c hc).2.priority_eq, hcRule]
    exact priority_of_mem_shadowClaims lib sorts hclaim hrule
  rw [hwPriority, hcPriority, hwIndex, ← hcIndex, ← hcwIndex] at hlt
  exact absurd hrank (not_le_of_gt hlt)

/-- The rule has this hostname, or none, and this match, or none. -/
def HasPair (rule : RouteRule) (hostname : Option String) (m : Option RouteMatch) : Prop :=
  (match hostname with
    | none => rule.hostnames = []
    | some hostname => hostname ∈ rule.hostnames) ∧
  (match m with
    | none => rule.routeMatches = []
    | some m => m ∈ rule.routeMatches)

/-- The same up to case and order. -/
def SharesPair (rule : RouteRule) (hostname : Option String) (m : Option RouteMatch) : Prop :=
  (match hostname with
    | none => rule.hostnames = []
    | some hostname => ∃ listed ∈ rule.hostnames, toLower lib listed = toLower lib hostname) ∧
  (match m with
    | none => rule.routeMatches = []
    | some m => ∃ n ∈ rule.routeMatches, SameMatch lib n m)

def pairKey (hostname : Option String) (m : Option RouteMatch) : ShadowKey :=
  ⟨toLower lib (hostname.getD ""), m.elim catchAllKey (canonicalMatchKey lib sorts)⟩

variable {m : Option RouteMatch} {hostname : Option String}

theorem HasPair.sharesPair (h : HasPair rule hostname m) : SharesPair lib rule hostname m := by
  refine ⟨?_, ?_⟩
  · cases hostname with
    | none => exact h.1
    | some hostname => exact ⟨hostname, h.1, rfl⟩
  · cases m with
    | none => exact h.2
    | some m => exact ⟨m, h.2, rfl, rfl, List.Perm.refl _, List.Perm.refl _⟩

/-- In a well-formed configuration the keys of a rule are the pairs it shares. -/
theorem pairKey_mem_iff (hcfg : WellFormed cfg) {owner : RouteRule} (howner : owner ∈ cfg.rules)
    (hrule : rule ∈ cfg.rules) (hpair : HasPair owner hostname m) :
    pairKey lib sorts hostname m ∈ ruleShadowKeys lib sorts rule ↔
      SharesPair lib rule hostname m := by
  rw [mem_ruleShadowKeys, mem_ruleMatchKeys]
  refine and_congr ?_ ?_
  · cases hostname with
    | none =>
      have hdefault : toLower lib "" = "" := (toLower_eq_empty_iff lib "").mpr rfl
      have hnone : ¬ ∃ listed ∈ rule.hostnames, toLower lib listed = toLower lib "" := by
        rintro ⟨listed, hlisted, hlower⟩
        rw [hdefault, toLower_eq_empty_iff] at hlower
        exact hcfg.hostnames rule hrule (hlower ▸ hlisted)
      exact (or_iff_left hnone).trans (and_iff_left hdefault)
    | some hostname =>
      refine or_iff_right fun h => ?_
      have hempty : hostname = "" := (toLower_eq_empty_iff lib hostname).mp h.2
      exact hcfg.hostnames owner howner (hempty ▸ hpair.1)
  · cases m with
    | none =>
      have hnone : ¬ ∃ n ∈ rule.routeMatches, canonicalMatchKey lib sorts n = catchAllKey := by
        rintro ⟨n, -, hcatch⟩
        exact canonicalMatchKey_ne_catchAll lib sorts n hcatch
      exact (or_iff_left hnone).trans (and_iff_left rfl)
    | some m =>
      refine (or_iff_right fun h => canonicalMatchKey_ne_catchAll lib sorts m h.2).trans ?_
      exact exists_congr fun n => and_congr_right fun hn => canonicalMatchKey_eq_iff lib sorts
        (hcfg.routeMatches rule hrule n hn) (hcfg.routeMatches owner howner m hpair.2)

/-- The rule at `first` shares the pair and ranks above every other rule that
does. -/
structure RanksFirst (cfg : Config) (hostname : Option String) (m : Option RouteMatch)
    (first : ℕ) (firstRule : RouteRule) : Prop where
  listed : cfg.rules[first]? = some firstRule
  shares : SharesPair lib firstRule hostname m
  above : ∀ other otherRule, cfg.rules[other]? = some otherRule → other ≠ first →
    SharesPair lib otherRule hostname m → ∀ bucket,
      rank bucket (computePriority otherRule) other < rank bucket (computePriority firstRule) first

/-- Every claimant of a pair other than the first one loses to the first one. -/
theorem winnersOf_pairKey (hcfg : WellFormed cfg) {owner firstRule : RouteRule} {first : ℕ}
    {p : RuleProvenance} (howner : owner ∈ cfg.rules) (hpair : HasPair owner hostname m)
    (hfirst : RanksFirst lib cfg hostname m first firstRule) (hp : provenance[first]? = some p) :
    winnersOf (shadowClaims lib sorts provenance cfg) (pairKey lib sorts hostname m) =
      some (claimant first p firstRule) := by
  have hkeyIff := fun {rule : RouteRule} (hrule : rule ∈ cfg.rules) =>
    pairKey_mem_iff lib sorts hcfg howner hrule hpair
  have hclaim : (⟨pairKey lib sorts hostname m, claimant first p firstRule⟩) ∈
      shadowClaims lib sorts provenance cfg := by
    refine (mem_shadowClaims lib sorts).mpr ⟨first, p, firstRule, hp, hfirst.listed, rfl, ?_⟩
    exact (hkeyIff (List.mem_of_getElem? hfirst.listed)).mpr hfirst.shares
  obtain ⟨winner, hwinner⟩ := exists_winnersOf hclaim
  rw [hwinner]
  obtain ⟨w, q, rule, hq, hrule, hclaimant, hkey⟩ :=
    (mem_shadowClaims lib sorts).mp (mem_of_winnersOf hwinner)
  subst hclaimant
  by_cases hsame : w = first
  · subst hsame
    rw [hp, Option.some.injEq] at hq
    have hrules : some firstRule = some rule := hfirst.listed.symm.trans hrule
    rw [hq, Option.some.inj hrules]
  · have hshares := (hkeyIff (List.mem_of_getElem? hrule)).mp hkey
    have hlt := hfirst.above w rule hrule hsame hshares .default
    have hbeats := (rank_lt_iff_beats .default (claimant first p firstRule)
      (claimant w q rule)).mp hlt
    exact absurd hbeats (not_beats_winnersOf hclaim hwinner)

/-- No reported rule is returned through the bucket of the pair it loses. -/
def Sound (provenance : List RuleProvenance) (cfg : Config) : Prop :=
  ∀ s ∈ shadowings (shadowClaims lib sorts provenance cfg), ∀ rule,
    cfg.rules[s.claim.claimant.flatIdx]? = some rule →
    ∀ (order : WildcardOrder) (table : RoutingTable), compileRoutingTable lib order cfg = .ok table →
    ∀ (rand : ℕ → ℕ) (req : Request), SatisfiesKey lib sorts req rule s.claim.key.matchKey →
    ∀ result, route lib table rand req = some result →
      result.ruleIndex = s.claim.claimant.flatIdx → result.matchedHostname ≠ s.claim.key.hostname

/-- Every rule with a pair that a rule of another route ranks first for is
reported once for that pair, as losing to that rule. -/
def Complete (provenance : List RuleProvenance) (cfg : Config) : Prop :=
  ∀ (hostname : Option String) (m : Option RouteMatch) (first loser : ℕ)
    (firstRule loserRule : RouteRule) (p q : RuleProvenance),
    RanksFirst lib cfg hostname m first firstRule →
    cfg.rules[loser]? = some loserRule → HasPair loserRule hostname m → loser ≠ first →
    provenance[first]? = some p → provenance[loser]? = some q → sameRoute p q = false →
    (shadowings (shadowClaims lib sorts provenance cfg)).filter
        (fun s => s.emitted = (loser, pairKey lib sorts hostname m)) =
      [⟨⟨pairKey lib sorts hostname m, claimant loser q loserRule⟩, claimant first p firstRule⟩]

theorem complete_of_wellFormed (provenance : List RuleProvenance) (hcfg : WellFormed cfg) :
    Complete lib sorts provenance cfg := by
  intro hostname m first loser firstRule loserRule p q hfirst hloser hpair hne hp hq hroute
  have howner := List.mem_of_getElem? hloser
  have hwinner := winnersOf_pairKey lib sorts hcfg howner hpair hfirst hp
  have hkey := (pairKey_mem_iff lib sorts hcfg howner howner hpair).mpr (hpair.sharesPair lib)
  have hmem : (⟨⟨pairKey lib sorts hostname m, claimant loser q loserRule⟩,
      claimant first p firstRule⟩) ∈
        shadowings (shadowClaims lib sorts provenance cfg) := by
    refine (mem_shadowings lib sorts).mpr (mem_losing.mpr ⟨?_, hwinner, ?_, hroute⟩)
    · exact (mem_shadowClaims lib sorts).mpr ⟨loser, q, loserRule, hq, hloser, rfl, hkey⟩
    · exact hne.symm
  exact filter_key_eq_singleton nodup_map_dedupBy hmem

/-- In a configuration as routes can express it the detector agrees with the
router. -/
theorem shadow_detection_agrees (provenance : List RuleProvenance) (cfg : Config)
    (hlen : provenance.length = cfg.rules.length) (hcfg : WellFormed cfg) :
    detectShadowedRules lib sorts provenance cfg =
        (shadowings (shadowClaims lib sorts provenance cfg)).map Shadowing.diagnostic ∧
      Sound lib sorts provenance cfg ∧ Complete lib sorts provenance cfg := by
  refine ⟨?_, ?_, complete_of_wellFormed lib sorts provenance hcfg⟩
  · rw [detectShadowedRules, if_neg (not_not.mpr hlen), shadowDiagnostics]
  · intro s hs rule hrule order table htable rand req hsat result hroute hindex
    exact not_routed_of_shadowing lib sorts hcfg hs htable hrule hsat hroute hindex

end Agreement

section Fixtures

def twoRoutes : List RuleProvenance :=
  [⟨.HTTPRoute, "shop", "front", 100, 0⟩, ⟨.HTTPRoute, "blog", "front", 200, 0⟩]

/-- One pair written twice, in another order and case. -/
def rewrittenPair : Config where
  version := 1
  rules := [
    { hostnames := ["App.example.com"],
      routeMatches := [{ headers := [⟨.exact, "X-Env", "prod"⟩, ⟨.exact, "x-tenant", "a"⟩] }] },
    { hostnames := ["app.example.com"],
      routeMatches := [{ headers := [⟨.exact, "X-Tenant", "a"⟩, ⟨.exact, "x-env", "prod"⟩] }] }]

theorem rewrittenPair_wellFormed : WellFormed rewrittenPair := by
  refine ⟨by decide, ?_⟩
  intro rule hrule m hm
  simp only [rewrittenPair, List.mem_cons, List.not_mem_nil, or_false] at hrule
  rcases hrule with rfl | rfl
  · rw [List.mem_singleton.mp hm]
    exact ⟨⟨by simp, by simp, by simp⟩, by decide, by simp⟩
  · rw [List.mem_singleton.mp hm]
    exact ⟨⟨by simp, by simp, by simp⟩, by decide, by simp⟩

theorem rewrittenPair_detected :
    (detectShadowedRules .literal .stable twoRoutes rewrittenPair).map (·.ns) = ["blog"] ∧
      Sound .literal .stable twoRoutes rewrittenPair ∧
      Complete .literal .stable twoRoutes rewrittenPair := by
  have hagrees := shadow_detection_agrees .literal .stable twoRoutes rewrittenPair rfl
    rewrittenPair_wellFormed
  exact ⟨by decide +kernel, hagrees.2⟩

/-- The rules reported as shadowed and the hostnames they lose. -/
def reported (lib : GoLib) (cfg : Config) : List (ℕ × String) :=
  (shadowings (shadowClaims lib .stable twoRoutes cfg)).map fun s =>
    (s.claim.claimant.flatIdx, s.claim.key.hostname)

/-- The rule that answers a request and the hostname of its bucket. -/
def answered (lib : GoLib) (cfg : Config) (req : Request) : Option (ℕ × String) :=
  (compileRoutingTable lib .stable cfg).toOption.bind fun table =>
    (route lib table (fun _ => 0) req).map fun result => (result.ruleIndex, result.matchedHostname)

/-- The Kelvin sign is lower-cased to `k`, as in the Unicode tables. -/
def kelvinLib : GoLib :=
  { GoLib.literal with
    lowerRune := fun c => if c.toNat = 0x212A then 'k' else c.toLower
    lowerRune_ascii := by
      intro c hc
      have hne : c.toNat ≠ 0x212A := by omega
      rw [if_neg hne] }

def kRequest : Request where
  method := "GET"
  host := "shop.example.com"
  path := "/"
  header name := if name = "K" then ["1"] else []
  query _ := []

/-- The first rule lists an empty hostname, the second one none. -/
def emptyHostname : Config where
  version := 1
  rules := [{ hostnames := [""] }, {}]

def kelvinHeader : Config where
  version := 1
  rules := [
    { routeMatches := [{ headers := [⟨.exact, String.ofList [Char.ofNat 0x212A], "1"⟩] }] },
    { routeMatches := [{ headers := [⟨.exact, "k", "1"⟩] }] }]

/-- Two query matches with one sort key, in both orders. -/
def zeroByteNames : Config where
  version := 1
  rules := [
    { routeMatches := [{ queryParams := [⟨.exact, "a", "x\x00Exact\x00y"⟩,
        ⟨.exact, "a\x00Exact\x00x", "y"⟩] }] },
    { routeMatches := [{ queryParams := [⟨.exact, "a\x00Exact\x00x", "y"⟩,
        ⟨.exact, "a", "x\x00Exact\x00y"⟩] }] }]

/-- Outside such configurations the detector and the router part: an empty
hostname is not the default bucket, a header name that is no token is not folded
by the router, and zero bytes in a query name mix up the sort keys. -/
theorem odd_names_misreported :
    (reported .literal emptyHostname = [(1, "")] ∧
      answered .literal emptyHostname kRequest = some (1, "")) ∧
    (reported kelvinLib kelvinHeader = [(1, "")] ∧
      answered kelvinLib kelvinHeader kRequest = some (1, "")) ∧
    (reported .literal zeroByteNames = [] ∧
      (zeroByteNames.rules.map (·.routeMatches.flatMap (·.queryParams))).Pairwise List.Perm) := by
  decide +kernel

end Fixtures

end TunnelGateway.ShadowDetection
