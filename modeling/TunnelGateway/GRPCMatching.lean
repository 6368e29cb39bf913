import TunnelGateway.ConfigAcceptance
import TunnelGateway.RegexpSplice
import TunnelGateway.RoutingOptimality
import TunnelGateway.SeparatedText

/-!
What a converted gRPC match accepts. A method match becomes one path match: an
exact path, a path prefix, or a regular expression over the two segments of the
path into which the user's expressions are spliced. On a path `/service/method`
the generated expression has exactly two slashes to place, so each user expression
sees its own segment; it sees more of the path only through anchors, which then
fail, or through a quotation or class name it leaves open.
-/
namespace TunnelGateway.GRPCMatching

open GoText Fallible ProxyConfig Matcher Router RouteSpec RouteConversion RegexpMatching GoRegexp
  RegexpSplice RoutingOptimality ConfigAcceptance ServiceTarget

/-- The library compiles and quotes as Go does. -/
structure FollowsGoRegexp (lib : GoLib) (tables : Tables) : Prop where
  compiles : ∀ pattern re, parse tables pattern = some re →
    ∃ f, lib.regexpCompile pattern = .ok f ∧ ∀ text : String, f text = re.matchString text.toList
  rejects : ∀ pattern, parse tables pattern = none → ∃ err, lib.regexpCompile pattern = .error err
  quotes : ∀ text, lib.quoteMeta text = quoteMeta text

/-- A user expression that keeps its meaning in a group: valid, complete and without anchors. -/
def Spliceable (tables : Tables) (pattern : String) : Prop :=
  ∃ st, parseState tables pattern.toList = some st ∧ st.dangling = false ∧
    st.close.re.anchorFree = true

instance (tables : Tables) (pattern : String) : Decidable (Spliceable tables pattern) :=
  decidable_of_iff
    ((parseState tables pattern.toList).any fun st => !st.dangling && st.close.re.anchorFree)
    (by simp [Spliceable, Option.any_eq_true])

section Pattern

variable {tables : Tables}

def slash : Regexp := .char fun c => c.toNat == '/'.toNat

/-- What the generated expressions have in common: two segments after slashes. -/
def segments (service method : Regexp) : Regexp :=
  .concat (.look .beginText) (.concat slash (.concat service (.concat slash method)))

/-- The end of the text after an expression. -/
def atEnd (re : Regexp) : Regexp := .concat re (.concat (.look .endText) .empty)

theorem reads_begin (tables : Tables) (t : List Char) :
    Reads tables {} ('^' :: t) (push ⟨.look .beginText, 1⟩ {}) t :=
  .step rfl (apply_item {} _) (.refl _ _)

theorem reads_end {st : State} (hflags : st.flags = {}) :
    Reads tables st ['$'] (push ⟨.look .endText, 1⟩ st) [] := by
  have htoken : token tables st.flags ['$'] = some (single (.look .endText), []) := by
    rw [hflags]
    rfl
  exact .step htoken (apply_item st _) (.refl _ _)

theorem parse_segments {service method : String} {st st' : State}
    (hservice : parseState tables service.toList = some st) (hst : st.dangling = false)
    (hmethod : parseState tables method.toList = some st') (hst' : st'.dangling = false) :
    parse tables ("^/(?:" ++ service ++ ")/(?:" ++ method ++ ")$") =
      some (segments st.close.re (atEnd st'.close.re)) := by
  have hslash : '/' ∉ metaChars := by decide
  have htext : ("^/(?:" ++ service ++ ")/(?:" ++ method ++ ")$").toList =
      '^' :: '/' :: '(' :: '?' :: ':' :: (service.toList ++
        ')' :: '/' :: '(' :: '?' :: ':' :: (method.toList ++ ')' :: ['$'])) := by
    simp
  have hreads := (reads_begin tables _).trans <| (reads_char hslash _ _).trans <|
    (reads_group hservice hst rfl rfl _).trans <| (reads_char hslash _ _).trans <|
    (reads_group hmethod hst' rfl rfl _).trans (reads_end rfl)
  rw [parse, htext, parseState_iff.mpr ⟨hreads, rfl⟩]
  rfl

/-- A text as it stands, up to the end. -/
def verbatim (text : List Char) : Regexp :=
  text.foldr (fun c re => .concat (.char fun d => d.toNat == c.toNat) re)
    (.concat (.look .endText) .empty)

theorem re_concatItems_verbatim (text : List Char) (items : List Item) :
    (concatItems (⟨.look .endText, 1⟩ :: (literals tables text ++ items))).re =
      items.foldl (fun rest item => .concat item.re rest) (verbatim text) := by
  rw [re_concatItems, List.foldl_cons, List.foldl_append, literals, List.foldl_reverse,
    List.foldr_map]
  rfl

/-- The expression that stands for an omitted segment. -/
def anySegment : Regexp :=
  repetition 1 none (.char fun c => (false || inRanges [(47, 47)] c) != true)

theorem reads_anySegment {st : State} (hflags : st.flags = {}) {t : List Char}
    (ht : t.head? ≠ some '?') :
    Reads tables st ('[' :: '^' :: '/' :: ']' :: '+' :: t)
      { push ⟨anySegment, 1⟩ st with repeated := true } t := by
  have hclass : token tables st.flags ('[' :: '^' :: '/' :: ']' :: '+' :: t) =
      some (single (.char fun c => (false || inRanges [(47, 47)] c) != true), '+' :: t) := by
    rw [hflags]
    rfl
  have hplus : token tables st.flags ('+' :: t) = some (.repeatOp 1 none false, t) := by
    have htoken : token tables st.flags ('+' :: t) =
      some (.repeatOp 1 none false, skipLazy t) := rfl
    rw [htoken, skipLazy, if_neg ht]
  exact .step hclass (apply_item st _) (.step hplus rfl (.refl _ _))

theorem parseState_anySegment (tables : Tables) :
    ∃ st, parseState tables grpcSegmentPattern.toList = some st ∧ st.dangling = false ∧
      st.close.re = .concat anySegment .empty := by
  have hreads : Reads tables {} grpcSegmentPattern.toList
      { push ⟨anySegment, 1⟩ {} with repeated := true } [] := reads_anySegment rfl (by simp)
  exact ⟨_, parseState_iff.mpr ⟨hreads, rfl⟩, rfl, rfl⟩

theorem parse_methodOnly (method : String) :
    parse tables ("^/" ++ grpcSegmentPattern ++ "/" ++ quoteMeta method ++ "$") =
      some (segments anySegment (verbatim method.toList)) := by
  have hslash : '/' ∉ metaChars := by decide
  have htext : ("^/" ++ grpcSegmentPattern ++ "/" ++ quoteMeta method ++ "$").toList =
      '^' :: '/' :: '[' :: '^' :: '/' :: ']' :: '+' :: '/' ::
        ((method.toList.flatMap fun c => if c ∈ metaChars then ['\\', c] else [c]) ++ ['$']) := by
    simp [grpcSegmentPattern, quoteMeta]
  have hreads := (reads_begin tables _).trans <| (reads_char hslash _ _).trans <|
    (reads_anySegment rfl (by simp)).trans <| (reads_char hslash _ _).trans <|
    (reads_quoteMeta method.toList rfl rfl _).trans (reads_end rfl)
  rw [parse, htext, parseState_iff.mpr ⟨hreads, rfl⟩]
  exact congrArg some (re_concatItems_verbatim method.toList _)

end Pattern

section Meaning

theorem toNat_beq_iff {c d : Char} : (c.toNat == d.toNat) = true ↔ c = d := by
  rw [beq_iff_eq, Char.toNat_inj]

variable {l r w text : List Char} {re method service : Regexp}

theorem matches_slash_concat :
    (Regexp.concat slash re).Matches l w r ↔
      ∃ v, w = '/' :: v ∧ re.Matches (l ++ ['/']) v r := by
  rw [slash, matches_char_concat]
  constructor
  · rintro ⟨c, v, rfl, hc, hre⟩
    rw [toNat_beq_iff] at hc
    subst hc
    exact ⟨v, rfl, hre⟩
  · rintro ⟨v, rfl, hre⟩
    exact ⟨'/', v, rfl, rfl, hre⟩

theorem matchesIn_segments :
    (segments service method).MatchesIn text ↔
      ∃ u v r, text = '/' :: (u ++ '/' :: (v ++ r)) ∧
        service.Matches ['/'] u ('/' :: (v ++ r)) ∧ method.Matches ('/' :: u ++ ['/']) v r := by
  rw [segments, matchesIn_begin_iff]
  constructor
  · rintro ⟨w, r, rfl, h⟩
    obtain ⟨_, rfl, u, _, rfl, hservice, hrest⟩ := matches_slash_concat.mp h
    obtain ⟨v, rfl, hmethod⟩ := matches_slash_concat.mp hrest
    exact ⟨u, v, r, by simp, hservice, hmethod⟩
  · rintro ⟨u, v, r, rfl, hservice, hmethod⟩
    refine ⟨'/' :: (u ++ '/' :: v), r, by simp, matches_slash_concat.mpr ⟨_, rfl, ?_⟩⟩
    exact ⟨u, '/' :: v, rfl, hservice, matches_slash_concat.mpr ⟨v, rfl, hmethod⟩⟩

theorem matches_atEnd : (atEnd re).Matches l w r ↔ r = [] ∧ re.Matches l w [] := by
  constructor
  · rintro ⟨u, v, rfl, hre, hend⟩
    obtain ⟨rfl, rfl⟩ := matches_end_iff.mp hend
    rw [List.append_nil]
    exact ⟨rfl, hre⟩
  · rintro ⟨rfl, hre⟩
    exact ⟨w, [], (List.append_nil w).symm, hre, matches_end_iff.mpr ⟨rfl, rfl⟩⟩

theorem matches_verbatim : (verbatim text).Matches l w r ↔ w = text ∧ r = [] := by
  induction text generalizing l w with
  | nil => exact matches_end_iff
  | cons c text ih =>
    rw [verbatim, List.foldr_cons, matches_char_concat]
    constructor
    · rintro ⟨d, v, rfl, hd, hrest⟩
      obtain ⟨rfl, rfl⟩ := ih.mp hrest
      rw [toNat_beq_iff.mp hd]
      exact ⟨rfl, rfl⟩
    · rintro ⟨rfl, rfl⟩
      exact ⟨c, text, rfl, toNat_beq_iff.mpr rfl, ih.mpr ⟨rfl, rfl⟩⟩

theorem matches_anySegment : anySegment.Matches l w r ↔ w ≠ [] ∧ '/' ∉ w := by
  have hchar : ∀ c : Char, ((false || inRanges [(47, 47)] c) != true) = true ↔ c ≠ '/' := by
    intro c
    have hslash : '/'.toNat = 47 := rfl
    rw [Ne, ← Char.toNat_inj]
    simp [inRanges]
  constructor
  · rintro ⟨u, v, rfl, ⟨u, v', rfl, ⟨c, rfl, hc⟩, rfl⟩, hstar⟩
    have hv := star_char_iff.mp hstar
    refine ⟨by simp, ?_⟩
    rw [List.append_nil, List.singleton_append, List.mem_cons, not_or]
    exact ⟨((hchar c).mp hc).symm, fun hmem => (hchar '/').mp (hv '/' hmem) rfl⟩
  · rintro ⟨hne, hslash⟩
    obtain ⟨c, w, rfl⟩ := List.exists_cons_of_ne_nil hne
    rw [List.mem_cons, not_or] at hslash
    have hfirst := (hchar c).mpr (Ne.symm hslash.1)
    refine ⟨[c], w, rfl, ⟨[c], [], rfl, ⟨c, rfl, hfirst⟩, rfl⟩, star_char_iff.mpr ?_⟩
    intro d hd
    apply (hchar d).mpr
    rintro rfl
    exact hslash.2 hd

/-- A path of two segments leaves one way to place the slashes. -/
theorem matchesIn_segments_iff {s m : List Char} (hs : '/' ∉ s) (hm : '/' ∉ m) :
    (segments service method).MatchesIn ('/' :: (s ++ '/' :: m)) ↔
      ∃ v r, m = v ++ r ∧ service.Matches ['/'] s ('/' :: m) ∧
        method.Matches ('/' :: s ++ ['/']) v r := by
  rw [matchesIn_segments]
  constructor
  · rintro ⟨u, v, r, htext, hservice, hmethod⟩
    obtain ⟨rfl, hrest⟩ :=
      SeparatedText.append_cons_inj_of_notMem hs hm (List.cons.inj htext).2.symm
    rw [hrest] at hservice
    exact ⟨v, r, hrest.symm, hservice, hmethod⟩
  · rintro ⟨v, r, rfl, hservice, hmethod⟩
    exact ⟨s, v, r, rfl, hservice, hmethod⟩

/-- Between slashes or ends an expression without anchors matches as it does alone. -/
theorem matches_alone_iff (hfree : re.anchorFree = true) (hl : wordBefore l = false)
    (hr : wordAfter r = false) : re.Matches l w r ↔ re.Matches [] w [] :=
  ⟨matches_congr hfree hl hr, matches_congr hfree hl.symm hr.symm⟩

end Meaning

section Splicing

variable (tables : Tables)

/-- The expression matches all of the text. -/
def WholeMatch (pattern text : String) : Prop :=
  ∃ re, parse tables pattern = some re ∧ re.Matches [] text.toList []

instance (pattern text : String) : Decidable (WholeMatch tables pattern text) :=
  decidable_of_iff ((parse tables pattern).any (·.accepts [] text.toList []))
    (by simp [WholeMatch, Option.any_eq_true, accepts_iff])

/-- The part of a path between slashes. -/
def IsSegment (text : String) : Prop := text ≠ "" ∧ '/' ∉ text.toList

instance (text : String) : Decidable (IsSegment text) := by
  unfold IsSegment
  infer_instance

theorem IsSegment.toList_ne_nil {text : String} (h : IsSegment text) : text.toList ≠ [] :=
  fun hnil => h.1 (String.toList_eq_nil_iff.mp hnil)

theorem toList_path (s m : String) :
    ("/" ++ s ++ "/" ++ m).toList = '/' :: (s.toList ++ '/' :: m.toList) := by
  simp

variable {tables}

theorem wholeMatch_iff {pattern text : String} {st : State}
    (h : parseState tables pattern.toList = some st) :
    WholeMatch tables pattern text ↔ st.close.re.Matches [] text.toList [] := by
  have hparse : parse tables pattern = some st.close.re := by
    rw [parse, h]
    rfl
  constructor
  · rintro ⟨re, hre, hmatches⟩
    rw [hparse] at hre
    cases hre
    exact hmatches
  · intro hmatches
    exact ⟨_, hparse, hmatches⟩

/-- Spliceable expressions see their own segment only. -/
theorem parse_spliced {service method : String} (hservice : Spliceable tables service)
    (hmethod : Spliceable tables method) :
    ∃ re, parse tables ("^/(?:" ++ service ++ ")/(?:" ++ method ++ ")$") = some re ∧
      ∀ s m : String, '/' ∉ s.toList → '/' ∉ m.toList →
        (re.matchString ("/" ++ s ++ "/" ++ m).toList = true ↔
          WholeMatch tables service s ∧ WholeMatch tables method m) := by
  obtain ⟨st, hst, hclosed, hfree⟩ := hservice
  obtain ⟨st', hst', hclosed', hfree'⟩ := hmethod
  refine ⟨_, parse_segments hst hclosed hst' hclosed', ?_⟩
  intro s m hs hm
  have hbefore : wordBefore ('/' :: s.toList ++ ['/']) = false := by
    rw [wordBefore, List.getLast?_concat]
    rfl
  rw [toList_path, matchString_iff, matchesIn_segments_iff hs hm, wholeMatch_iff hst,
    wholeMatch_iff hst']
  constructor
  · rintro ⟨v, r, hrest, hservice, hend⟩
    obtain ⟨rfl, hmethod⟩ := matches_atEnd.mp hend
    rw [List.append_nil] at hrest
    subst hrest
    exact ⟨(matches_alone_iff hfree rfl rfl).mp hservice,
      (matches_alone_iff hfree' hbefore rfl).mp hmethod⟩
  · rintro ⟨hservice, hmethod⟩
    have hend := matches_atEnd.mpr ⟨rfl, (matches_alone_iff hfree' hbefore rfl).mpr hmethod⟩
    exact ⟨_, [], (List.append_nil _).symm, (matches_alone_iff hfree rfl rfl).mpr hservice, hend⟩

theorem parse_methodOnly_iff (tables : Tables) (method : String) :
    ∃ re, parse tables ("^/" ++ grpcSegmentPattern ++ "/" ++ quoteMeta method ++ "$") = some re ∧
      ∀ s m : String, IsSegment s → '/' ∉ m.toList →
        (re.matchString ("/" ++ s ++ "/" ++ m).toList = true ↔ method = m) := by
  refine ⟨_, parse_methodOnly method, ?_⟩
  intro s m hs hm
  rw [toList_path, matchString_iff, matchesIn_segments_iff hs.2 hm]
  constructor
  · rintro ⟨v, r, hrest, -, hmethod⟩
    obtain ⟨rfl, rfl⟩ := matches_verbatim.mp hmethod
    rw [List.append_nil] at hrest
    exact String.toList_inj.mp hrest.symm
  · rintro rfl
    exact ⟨method.toList, [], (List.append_nil _).symm,
      matches_anySegment.mpr ⟨hs.toList_ne_nil, hs.2⟩, matches_verbatim.mpr ⟨rfl, rfl⟩⟩

end Splicing

section Methods

variable (tables : Tables)

/-- The constraint on one segment; an omitted value accepts everything. -/
def SegmentAccepts (type : Option MatchType) (value text : String) : Prop :=
  value = "" ∨
    if type = some .regularExpression then WholeMatch tables value text else value = text

def MethodAccepts (method : Option GRPCMethodMatch) (s m : String) : Prop :=
  ∀ mm ∈ method, SegmentAccepts tables mm.type (mm.service.getD "") s ∧
    SegmentAccepts tables mm.type (mm.method.getD "") m

/-- The expressions of a method match are omitted or spliceable. -/
def MethodKept (method : Option GRPCMethodMatch) : Prop :=
  ∀ mm ∈ method, mm.type = some .regularExpression →
    (mm.service.getD "" ≠ "" → Spliceable tables (mm.service.getD "")) ∧
    (mm.method.getD "" ≠ "" → Spliceable tables (mm.method.getD ""))

variable {tables} {lib : GoLib}

theorem spliceable_segment {value : String} (h : value ≠ "" → Spliceable tables value) :
    Spliceable tables (if value = "" then grpcSegmentPattern else value) := by
  split_ifs with hempty
  · obtain ⟨st, hst, hclosed, hre⟩ := parseState_anySegment tables
    exact ⟨st, hst, hclosed, hre ▸ rfl⟩
  · exact h hempty

theorem wholeMatch_segment_iff {text : String} (htext : IsSegment text) (value : String) :
    WholeMatch tables (if value = "" then grpcSegmentPattern else value) text ↔
      SegmentAccepts tables (some .regularExpression) value text := by
  split_ifs with hempty
  · refine iff_of_true ?_ (.inl hempty)
    obtain ⟨st, hst, -, hre⟩ := parseState_anySegment tables
    rw [wholeMatch_iff hst, hre]
    exact ⟨_, [], (List.append_nil _).symm,
      matches_anySegment.mpr ⟨htext.toList_ne_nil, htext.2⟩, rfl⟩
  · rw [SegmentAccepts, if_pos rfl, or_iff_right hempty]

theorem pathSatisfied_regularExpression (hlib : FollowsGoRegexp lib tables) {pattern : String}
    {re : Regexp} (hparse : parse tables pattern = some re) (req : Request) :
    pathSatisfied lib req ⟨.regularExpression, pattern⟩ = re.matchString req.path.toList := by
  obtain ⟨f, hf, htext⟩ := hlib.compiles pattern re hparse
  simp [pathSatisfied, hf, Except.toOption, htext]

/-- Two paths of this form agree in both segments. -/
theorem path_eq_iff {service method s m : String} (hs : '/' ∉ s.toList) (hm : '/' ∉ m.toList) :
    "/" ++ s ++ "/" ++ m = "/" ++ service ++ "/" ++ method ↔ service = s ∧ method = m := by
  constructor
  · intro h
    have hlist := congrArg String.toList h
    rw [toList_path, toList_path] at hlist
    obtain ⟨hservice, hmethod⟩ :=
      SeparatedText.append_cons_inj_of_notMem hs hm (List.cons.inj hlist).2.symm
    exact ⟨String.toList_inj.mp hservice, String.toList_inj.mp hmethod⟩
  · rintro ⟨rfl, rfl⟩
    rfl

/-- A prefix that ends in a slash is the first segment. -/
theorem prefixPathMatches_service_iff {service s m : String} (hs : '/' ∉ s.toList)
    (hm : '/' ∉ m.toList) :
    prefixPathMatches ("/" ++ service ++ "/") ("/" ++ s ++ "/" ++ m) = true ↔ service = s := by
  have hslash : hasSuffix ("/" ++ service ++ "/") "/" = true := by
    rw [hasSuffix_iff, String.toList_append]
    exact List.suffix_append _ _
  have hpre : ("/" ++ service ++ "/").toList = '/' :: (service.toList ++ ['/']) := by
    simp
  rw [prefixPathMatches, hslash, Bool.or_true, Bool.true_or, Bool.and_true, hasPrefix_iff, hpre,
    toList_path, List.cons_prefix_cons]
  constructor
  · rintro ⟨-, rest, hrest⟩
    rw [List.append_assoc] at hrest
    obtain ⟨hservice, -⟩ := SeparatedText.append_cons_inj_of_notMem hs hm hrest
    exact String.toList_inj.mp hservice
  · rintro rfl
    exact ⟨rfl, m.toList, by simp⟩

variable {req : Request} {s m : String}

theorem regexMethod_satisfied_iff (hlib : FollowsGoRegexp lib tables) {mm : GRPCMethodMatch}
    (htype : mm.type = some .regularExpression) (hkept : MethodKept tables (some mm))
    (hs : IsSegment s) (hm : IsSegment m) (hpath : req.path = "/" ++ s ++ "/" ++ m) :
    (grpcMethodToPath lib (some mm)).all (pathSatisfied lib req) = true ↔
      SegmentAccepts tables mm.type (mm.service.getD "") s ∧
        SegmentAccepts tables mm.type (mm.method.getD "") m := by
  obtain ⟨hservice, hmethod⟩ := hkept mm rfl htype
  obtain ⟨re, hparse, hre⟩ := parse_spliced (spliceable_segment hservice)
    (spliceable_segment hmethod)
  rw [grpcMethodToPath]
  by_cases hempty : mm.service.getD "" = "" ∧ mm.method.getD "" = ""
  · rw [if_pos hempty]
    exact iff_of_true rfl ⟨.inl hempty.1, .inl hempty.2⟩
  · rw [if_neg hempty, if_pos htype, Option.all_some, pathSatisfied_regularExpression hlib hparse,
      hpath, hre s m hs.2 hm.2, wholeMatch_segment_iff hs, wholeMatch_segment_iff hm, htype]

section Exact

variable {mm : GRPCMethodMatch} (htype : mm.type ≠ some .regularExpression)

include htype

theorem grpcMethodToPath_both (hservice : mm.service.getD "" ≠ "")
    (hmethod : mm.method.getD "" ≠ "") :
    grpcMethodToPath lib (some mm) =
      some ⟨.exact, "/" ++ mm.service.getD "" ++ "/" ++ mm.method.getD ""⟩ := by
  simp [grpcMethodToPath, htype, hservice, hmethod]

theorem grpcMethodToPath_service (hservice : mm.service.getD "" ≠ "")
    (hmethod : mm.method.getD "" = "") :
    grpcMethodToPath lib (some mm) = some ⟨.pathPrefix, "/" ++ mm.service.getD "" ++ "/"⟩ := by
  simp [grpcMethodToPath, htype, hservice, hmethod]

theorem grpcMethodToPath_method (hservice : mm.service.getD "" = "")
    (hmethod : mm.method.getD "" ≠ "") :
    grpcMethodToPath lib (some mm) = some ⟨.regularExpression,
      "^/" ++ grpcSegmentPattern ++ "/" ++ lib.quoteMeta (mm.method.getD "") ++ "$"⟩ := by
  simp [grpcMethodToPath, htype, hservice, hmethod]

theorem exactMethod_satisfied_iff (hlib : FollowsGoRegexp lib tables) (hs : IsSegment s)
    (hm : IsSegment m) (hpath : req.path = "/" ++ s ++ "/" ++ m) :
    (grpcMethodToPath lib (some mm)).all (pathSatisfied lib req) = true ↔
      SegmentAccepts tables mm.type (mm.service.getD "") s ∧
        SegmentAccepts tables mm.type (mm.method.getD "") m := by
  rw [SegmentAccepts, SegmentAccepts, if_neg htype, if_neg htype]
  by_cases hservice : mm.service.getD "" = ""
  · by_cases hmethod : mm.method.getD "" = ""
    · simp [grpcMethodToPath, hservice, hmethod]
    · obtain ⟨re, hparse, hre⟩ := parse_methodOnly_iff tables (mm.method.getD "")
      rw [grpcMethodToPath_method htype hservice hmethod, Option.all_some, hlib.quotes,
        pathSatisfied_regularExpression hlib hparse, hpath, hre s m hs hm.2]
      simp [hservice, hmethod]
  · by_cases hmethod : mm.method.getD "" = ""
    · rw [grpcMethodToPath_service htype hservice hmethod, Option.all_some, pathSatisfied, hpath,
        prefixPathMatches_service_iff hs.2 hm.2]
      simp [hservice, hmethod]
    · rw [grpcMethodToPath_both htype hservice hmethod, Option.all_some, pathSatisfied, hpath,
        beq_iff_eq, path_eq_iff hs.2 hm.2]
      simp [hservice, hmethod]

end Exact

/-- The converted path match accepts what the method match accepts. -/
theorem grpcMethodToPath_satisfied_iff (hlib : FollowsGoRegexp lib tables)
    {method : Option GRPCMethodMatch} (hkept : MethodKept tables method) (hs : IsSegment s)
    (hm : IsSegment m) (hpath : req.path = "/" ++ s ++ "/" ++ m) :
    (grpcMethodToPath lib method).all (pathSatisfied lib req) = true ↔
      MethodAccepts tables method s m := by
  cases method with
  | none => simp [grpcMethodToPath, MethodAccepts]
  | some mm =>
    have haccepts : MethodAccepts tables (some mm) s m ↔
        SegmentAccepts tables mm.type (mm.service.getD "") s ∧
          SegmentAccepts tables mm.type (mm.method.getD "") m := by
      simp [MethodAccepts]
    rw [haccepts]
    by_cases htype : mm.type = some .regularExpression
    · exact regexMethod_satisfied_iff hlib htype hkept hs hm hpath
    · exact exactMethod_satisfied_iff htype hlib hs hm hpath

end Methods

section Rules

variable {lib : GoLib} {tables : Tables}

/-- Some value under the name of the header passes. -/
def HeaderHolds (lib : GoLib) (header : GRPCHeaderMatch) (values : List String) : Prop :=
  if header.type = some .regularExpression then
    ∃ f, lib.regexpCompile header.value = .ok f ∧ ∃ value ∈ values, f value = true
  else header.value ∈ values

def Constrained (gm : GRPCRouteMatch) : Prop :=
  gm.headers ≠ [] ∨ ∃ mm ∈ gm.method, mm.service.getD "" ≠ "" ∨ mm.method.getD "" ≠ ""

def Accepts (lib : GoLib) (tables : Tables) (req : Request) (s m : String)
    (gm : GRPCRouteMatch) : Prop :=
  MethodAccepts tables gm.method s m ∧
    ∀ header ∈ gm.headers, HeaderHolds lib header (req.header.values header.name)

theorem headerHolds_iff (header : GRPCHeaderMatch) (values : List String) :
    valueSatisfied lib (convertGRPCHeaderMatch header).type header.value values = true ↔
      HeaderHolds lib header values := by
  unfold HeaderHolds convertGRPCHeaderMatch convertMatchType
  by_cases htype : header.type = some .regularExpression
  · rw [if_pos htype, if_pos htype, valueSatisfied]
    cases lib.regexpCompile header.value <;> simp [Except.toOption]
  · rw [if_neg htype, if_neg htype, valueSatisfied, List.contains_iff_mem]

theorem grpcMethodToPath_isNone_iff (method : Option GRPCMethodMatch) :
    (grpcMethodToPath lib method).isNone = true ↔
      ¬ ∃ mm ∈ method, mm.service.getD "" ≠ "" ∨ mm.method.getD "" ≠ "" := by
  cases method with
  | none => simp [grpcMethodToPath]
  | some mm =>
    by_cases hempty : mm.service.getD "" = "" ∧ mm.method.getD "" = ""
    · simp [grpcMethodToPath, hempty]
    · have hsome : (grpcMethodToPath lib (some mm)).isNone = false := by
        rw [grpcMethodToPath]
        split_ifs <;> rfl
      rw [hsome]
      simpa using hempty

/-- What a constrained match is converted to. -/
def convertedMatch (lib : GoLib) (gm : GRPCRouteMatch) : RouteMatch where
  path := grpcMethodToPath lib gm.method
  headers := gm.headers.map convertGRPCHeaderMatch

variable {gm : GRPCRouteMatch} {m' : RouteMatch}

theorem convertGRPCMatch_eq_some_iff :
    convertGRPCMatch lib gm = some m' ↔ Constrained gm ∧
      m' = convertedMatch lib gm := by
  have hconstrained : ((grpcMethodToPath lib gm.method).isNone &&
      (gm.headers.map convertGRPCHeaderMatch).isEmpty) = true ↔ ¬ Constrained gm := by
    rw [Bool.and_eq_true, grpcMethodToPath_isNone_iff, List.isEmpty_iff, List.map_eq_nil_iff,
      Constrained, not_or, not_not, and_comm]
  rw [convertGRPCMatch]
  split_ifs with h
  · rw [hconstrained] at h
    simp [h]
  · rw [hconstrained, not_not] at h
    simp [h, eq_comm, convertedMatch]

variable {req : Request} {s m : String}

theorem satisfied_converted_iff (hlib : FollowsGoRegexp lib tables)
    (hkept : MethodKept tables gm.method) (hs : IsSegment s) (hm : IsSegment m)
    (hpath : req.path = "/" ++ s ++ "/" ++ m) :
    satisfied lib req (convertedMatch lib gm) = true ↔ Accepts lib tables req s m gm := by
  have hmethod := grpcMethodToPath_satisfied_iff hlib hkept hs hm hpath
  have hheaders : (gm.headers.map convertGRPCHeaderMatch).all (fun header =>
      valueSatisfied lib header.type header.value (req.header.values header.name)) = true ↔
        ∀ header ∈ gm.headers, HeaderHolds lib header (req.header.values header.name) := by
    rw [List.all_map, List.all_eq_true]
    exact forall₂_congr fun header _ => headerHolds_iff header _
  rw [satisfied, Bool.and_eq_true, Bool.and_eq_true, Bool.and_eq_true, convertedMatch]
  rw [hmethod, hheaders, Accepts]
  simp

variable {resolvers : Resolvers} {ns : String} {hostnames : List String}
  {clientCert : Option ClientCertConfig} {rule : GRPCRouteRule}

theorem mem_routeMatches_converted :
    m' ∈ (convertGRPCRouteRule lib resolvers ns hostnames clientCert rule).routeMatches ↔
      ∃ gm ∈ rule.routeMatches, Constrained gm ∧ m' = convertedMatch lib gm := by
  simp [convertGRPCRouteRule, convertGRPCMatch_eq_some_iff]

theorem routeMatches_converted_eq_nil_iff :
    (convertGRPCRouteRule lib resolvers ns hostnames clientCert rule).routeMatches = [] ↔
      ∀ gm ∈ rule.routeMatches, ¬ Constrained gm := by
  rw [List.eq_nil_iff_forall_not_mem]
  simp only [mem_routeMatches_converted]
  constructor
  · intro h gm hgm hconstrained
    exact h _ ⟨gm, hgm, hconstrained, rfl⟩
  · rintro h _ ⟨gm, hgm, hconstrained, -⟩
    exact h gm hgm hconstrained

/-- A rule that keeps a match is satisfied by its constrained matches. -/
theorem ruleSatisfied_converted_iff (hlib : FollowsGoRegexp lib tables)
    (hkept : ∀ gm ∈ rule.routeMatches, MethodKept tables gm.method)
    (hsome : ∃ gm ∈ rule.routeMatches, Constrained gm)
    (hs : IsSegment s) (hm : IsSegment m) (hpath : req.path = "/" ++ s ++ "/" ++ m) :
    RuleSatisfied lib req (convertGRPCRouteRule lib resolvers ns hostnames clientCert rule) ↔
      ∃ gm ∈ rule.routeMatches, Constrained gm ∧ Accepts lib tables req s m gm := by
  obtain ⟨gm₀, hgm₀, hconstrained₀⟩ := hsome
  rw [RuleSatisfied, routeMatches_converted_eq_nil_iff,
    or_iff_right fun hnone => hnone gm₀ hgm₀ hconstrained₀]
  constructor
  · rintro ⟨m', hm', hsatisfied⟩
    obtain ⟨gm, hgm, hconstrained, rfl⟩ := mem_routeMatches_converted.mp hm'
    exact ⟨gm, hgm, hconstrained,
      (satisfied_converted_iff hlib (hkept gm hgm) hs hm hpath).mp hsatisfied⟩
  · rintro ⟨gm, hgm, hconstrained, haccepts⟩
    exact ⟨_, mem_routeMatches_converted.mpr ⟨gm, hgm, hconstrained, rfl⟩,
      (satisfied_converted_iff hlib (hkept gm hgm) hs hm hpath).mpr haccepts⟩

/-- The path match of a method match compiles. -/
theorem compiles_grpcMethodToPath (hlib : FollowsGoRegexp lib tables)
    {method : Option GRPCMethodMatch} (hkept : MethodKept tables method) :
    ∀ p ∈ (grpcMethodToPath lib method).toList.flatMap PathMatch.patterns, Compiles lib p := by
  have hcompiles : ∀ {pattern : String} {re : Regexp}, parse tables pattern = some re →
      Compiles lib pattern := by
    intro pattern re hparse
    obtain ⟨f, hf, -⟩ := hlib.compiles pattern re hparse
    exact ⟨f, hf⟩
  cases method with
  | none => simp [grpcMethodToPath]
  | some mm =>
    by_cases hempty : mm.service.getD "" = "" ∧ mm.method.getD "" = ""
    · simp [grpcMethodToPath, hempty]
    · rw [grpcMethodToPath]
      rw [if_neg hempty]
      by_cases htype : mm.type = some .regularExpression
      · obtain ⟨hservice, hmethod⟩ := hkept mm rfl htype
        obtain ⟨re, hparse, -⟩ := parse_spliced (spliceable_segment hservice)
          (spliceable_segment hmethod)
        rw [if_pos htype]
        simpa [PathMatch.patterns] using hcompiles hparse
      · obtain ⟨re, hparse, -⟩ := parse_methodOnly_iff tables (mm.method.getD "")
        rw [← hlib.quotes] at hparse
        split_ifs
        · simp [PathMatch.patterns]
        · simp [PathMatch.patterns]
        · simpa [PathMatch.patterns] using hcompiles hparse

/-- The expressions of a rule: those for headers compile, those for segments are spliceable. -/
structure ExpressionsKept (lib : GoLib) (tables : Tables) (rule : GRPCRouteRule) : Prop where
  methods : ∀ gm ∈ rule.routeMatches, MethodKept tables gm.method
  headers : ∀ gm ∈ rule.routeMatches, ∀ header ∈ gm.headers,
    header.type = some .regularExpression → Compiles lib header.value

theorem compileRule_converted_isOk (hlib : FollowsGoRegexp lib tables)
    (hkept : ExpressionsKept lib tables rule) (hadmitted : rule.Admitted) (idx : ℕ) :
    ∃ c, compileRule lib idx
      (convertGRPCRouteRule lib resolvers ns hostnames clientCert rule) = .ok c := by
  apply (compileRule_isOk lib (valid_convertGRPCRouteRule hadmitted) idx).mpr
  rw [patterns_convertGRPCRouteRule]
  intro p hp
  obtain ⟨gm, hgm, hp⟩ := List.mem_flatMap.mp hp
  rcases List.mem_append.mp hp with hp | hp
  · exact compiles_grpcMethodToPath hlib (hkept.methods gm hgm) p hp
  · obtain ⟨header, hheader, hp⟩ := List.mem_flatMap.mp hp
    unfold specPatterns at hp
    split_ifs at hp with htype
    · rw [List.mem_singleton.mp hp]
      exact hkept.headers gm hgm header hheader htype
    · cases hp

end Rules

section Calls

/-- Case folding of letters only, and no named classes. -/
def asciiTables : Tables where
  orbit c := [c.toLower, c.toUpper]
  property _ := none

/-- The literal library with Go's regular expressions. -/
def regexpLib : GoLib := { GoLib.literal with
  regexpCompile := fun pattern =>
    match parse asciiTables pattern with
    | some re => .ok fun text => re.matchString text.toList
    | none => .error "error parsing regexp"
  quoteMeta := quoteMeta }

theorem regexpLib_follows : FollowsGoRegexp regexpLib asciiTables := by
  refine ⟨?_, ?_, fun _ => rfl⟩
  · intro pattern re hparse
    refine ⟨fun text => re.matchString text.toList, ?_, fun _ => rfl⟩
    simp [regexpLib, hparse]
  · intro pattern hparse
    exact ⟨"error parsing regexp", by simp [regexpLib, hparse]⟩

def plainResolvers : Resolvers where
  clusterDomain := "cluster.local"
  validator _ _ := true
  protocolResolver _ _ _ := ""
  tlsResolver _ _ _ := none

/-- A rule that matches one service and method by regular expressions. -/
def regexRule (service method : String) : GRPCRouteRule where
  routeMatches := [{ method := some ⟨some .regularExpression, some service, some method⟩ }]

def regexRoute (service method : String) : RouteRule :=
  convertGRPCRouteRule regexpLib plainResolvers "default" [] none (regexRule service method)

def call (service method : String) : Request where
  method := "POST"
  host := "grpc.example.com"
  path := "/" ++ service ++ "/" ++ method
  header _ := []
  query _ := []

/-- Some match of the rule accepts both segments. -/
def RuleAccepts (rule : GRPCRouteRule) (s m : String) : Prop :=
  ∃ gm ∈ rule.routeMatches, Constrained gm ∧ Accepts regexpLib asciiTables (call s m) s m gm

theorem ruleAccepts_regexRule {service method s m : String} (hne : service ≠ "")
    (hservice : WholeMatch asciiTables service s) (hmethod : WholeMatch asciiTables method m) :
    RuleAccepts (regexRule service method) s m := by
  refine ⟨_, List.mem_singleton_self _, .inr ⟨_, rfl, .inl hne⟩, ?_, ?_⟩
  · intro mm hmm
    cases hmm
    exact ⟨.inr hservice, .inr hmethod⟩
  · intro header hheader
    cases hheader

theorem expressionsKept_regexRule {service method : String}
    (hservice : Spliceable asciiTables service) (hmethod : Spliceable asciiTables method) :
    ExpressionsKept regexpLib asciiTables (regexRule service method) := by
  constructor
  · intro gm hgm mm hmm _
    obtain rfl := List.mem_singleton.mp hgm
    cases hmm
    exact ⟨fun _ => hservice, fun _ => hmethod⟩
  · intro gm hgm header hheader
    obtain rfl := List.mem_singleton.mp hgm
    cases hheader

end Calls

end TunnelGateway.GRPCMatching
